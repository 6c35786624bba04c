import Mathlib.Data.List.Forall2
import Verdict.Engine
import Verdict.PatternList

namespace Verdict

section

variable [PatternEngine] {text : String} {texts before : List String} {p : Pattern} {error : PatternError}

namespace Pattern

def isPattern (text : String) : Bool :=
  (compile text).isOk

lemma isPattern_iff : isPattern text = true ↔ ∃ p, compile text = .ok p := by
  rw [isPattern]
  cases compile text with
  | ok p => simp [Except.toBool]
  | error error => simp [Except.toBool]

end Pattern

namespace PatternList

open Pattern (isPattern isPattern_iff source_of_compile)

instance : Append PatternList :=
  ⟨fun l m => ⟨l.patterns ++ m.patterns⟩⟩

lemma anyMatch_append (l m : PatternList) (text : String) :
    (l ++ m).anyMatch text = (l.anyMatch text || m.anyMatch text) :=
  List.any_append

lemma anyMiss_append (l m : PatternList) (text : String) :
    (l ++ m).anyMiss text = (l.anyMiss text || m.anyMiss text) :=
  List.any_append

lemma ofTexts_append (before after : List String) : ofTexts (before ++ after) = ofTexts before ++ ofTexts after :=
  congrArg mk List.filterMap_append

lemma ofTexts_cons (h : Pattern.compile text = .ok p) (texts : List String) :
    ofTexts (text :: texts) = ⟨p :: (ofTexts texts).patterns⟩ := by
  rw [ofTexts, List.filterMap_cons, h]
  rfl

lemma ofTexts_cons_of_error (h : Pattern.compile text = .error error) (texts : List String) :
    ofTexts (text :: texts) = ofTexts texts := by
  rw [ofTexts, List.filterMap_cons, h]
  rfl

lemma forall₂_ofTexts (texts : List String) :
    List.Forall₂ (fun t p => Pattern.compile t = .ok p) (texts.filter isPattern) (ofTexts texts).patterns := by
  induction texts with
  | nil => exact .nil
  | cons t ts ih =>
    cases h : Pattern.compile t with
    | ok p =>
      rw [List.filter_cons_of_pos (isPattern_iff.2 ⟨p, h⟩), ofTexts_cons h]
      exact .cons h ih
    | error error =>
      have hf : ¬ isPattern t = true := by simp [isPattern_iff, h]
      rw [List.filter_cons_of_neg hf, ofTexts_cons_of_error h]
      exact ih

lemma map_source_of_forall₂ {patterns : List Pattern}
    (h : List.Forall₂ (fun t p => Pattern.compile t = .ok p) texts patterns) : patterns.map Pattern.source = texts := by
  induction h with
  | nil => rfl
  | cons hp _ ih => rw [List.map_cons, source_of_compile hp, ih]

lemma texts_ofTexts (texts : List String) : (ofTexts texts).texts = texts.filter isPattern :=
  map_source_of_forall₂ (forall₂_ofTexts texts)

lemma size_ofTexts (texts : List String) : (ofTexts texts).size = (texts.filter isPattern).length :=
  (forall₂_ofTexts texts).length_eq.symm

lemma ofTexts?_cons (h : Pattern.compile text = .ok p) (texts : List String) :
    ofTexts? (text :: texts) = (ofTexts? texts).map fun l => ⟨p :: l.patterns⟩ := by
  rw [ofTexts?, ofTexts?, List.mapM_cons, h]
  cases texts.mapM Pattern.compile with
  | ok ps => rfl
  | error error => rfl

lemma ofTexts?_cons_of_error (h : Pattern.compile text = .error error) (texts : List String) :
    ofTexts? (text :: texts) = .error error := by
  rw [ofTexts?, List.mapM_cons, h]
  rfl

lemma ofTexts?_of_all (h : ∀ t ∈ texts, isPattern t = true) : ofTexts? texts = .ok (ofTexts texts) := by
  induction texts with
  | nil => rfl
  | cons t ts ih =>
    obtain ⟨ht, hts⟩ := List.forall_mem_cons.1 h
    obtain ⟨p, hp⟩ := isPattern_iff.1 ht
    rw [ofTexts?_cons hp, ih hts, ofTexts_cons hp]
    rfl

lemma ofTexts?_of_first (hb : ∀ t ∈ before, isPattern t = true) (h : Pattern.compile text = .error error)
    (after : List String) : ofTexts? (before ++ text :: after) = .error error := by
  induction before with
  | nil => exact ofTexts?_cons_of_error h after
  | cons t ts ih =>
    obtain ⟨ht, hts⟩ := List.forall_mem_cons.1 hb
    obtain ⟨p, hp⟩ := isPattern_iff.1 ht
    rw [List.cons_append, ofTexts?_cons hp, ih hts]
    rfl

def FirstError (texts : List String) (text : String) (error : PatternError) : Prop :=
  ∃ before after, texts = before ++ text :: after ∧ (∀ t ∈ before, isPattern t = true) ∧
    Pattern.compile text = .error error

lemma all_or_exists_firstError (texts : List String) :
    (∀ t ∈ texts, isPattern t = true) ∨ ∃ text error, FirstError texts text error := by
  induction texts with
  | nil => simp
  | cons t ts ih =>
    cases h : Pattern.compile t with
    | error error => exact .inr ⟨t, error, [], ts, rfl, by simp, h⟩
    | ok p =>
      have ht : isPattern t = true := isPattern_iff.2 ⟨p, h⟩
      obtain hts | ⟨text, error, before, after, rfl, hb, he⟩ := ih
      · exact .inl (List.forall_mem_cons.2 ⟨ht, hts⟩)
      · exact .inr ⟨text, error, t :: before, after, rfl, List.forall_mem_cons.2 ⟨ht, hb⟩, he⟩

lemma ofTexts?_of_firstError (h : FirstError texts text error) : ofTexts? texts = .error error := by
  obtain ⟨before, after, rfl, hb, he⟩ := h
  exact ofTexts?_of_first hb he after

lemma ofTexts?_eq_error_iff : ofTexts? texts = .error error ↔ ∃ text, FirstError texts text error := by
  constructor
  · intro h
    obtain ha | ⟨text, error', hf⟩ := all_or_exists_firstError texts
    · simp [ofTexts?_of_all ha] at h
    · obtain rfl := Except.error.inj ((ofTexts?_of_firstError hf).symm.trans h)
      exact ⟨text, hf⟩
  · rintro ⟨text, hf⟩
    exact ofTexts?_of_firstError hf

lemma ofTexts?_eq_ok_iff {l : PatternList} :
    ofTexts? texts = .ok l ↔ l = ofTexts texts ∧ ∀ t ∈ texts, isPattern t = true := by
  constructor
  · intro h
    obtain ha | ⟨text, error, hf⟩ := all_or_exists_firstError texts
    · exact ⟨Except.ok.inj (h.symm.trans (ofTexts?_of_all ha)), ha⟩
    · simp [ofTexts?_of_firstError hf] at h
  · rintro ⟨rfl, ha⟩
    exact ofTexts?_of_all ha

theorem refused_iff_drops (texts : List String) :
    (ofTexts texts).texts = texts.filter isPattern ∧
    List.Forall₂ (fun t p => Pattern.compile t = .ok p) (texts.filter isPattern) (ofTexts texts).patterns ∧
    ((∃ l, ofTexts? texts = .ok l) ↔ (ofTexts texts).texts = texts) ∧
    (∀ l, ofTexts? texts = .ok l → l = ofTexts texts ∧ l.size = texts.length) ∧
    (∀ error, ofTexts? texts = .error error ↔ ∃ text, FirstError texts text error) ∧
    (∀ others, ofTexts (texts ++ others) = ofTexts texts ++ ofTexts others) ∧
    ∀ (l m : PatternList) (text : String), (l ++ m).anyMatch text = (l.anyMatch text || m.anyMatch text) ∧
      (l ++ m).anyMiss text = (l.anyMiss text || m.anyMiss text) := by
  refine ⟨texts_ofTexts texts, forall₂_ofTexts texts, ?_, fun l h => ?_, fun error => ofTexts?_eq_error_iff,
    ofTexts_append texts, fun l m text => ⟨anyMatch_append l m text, anyMiss_append l m text⟩⟩
  · rw [texts_ofTexts, List.filter_eq_self]
    simp only [ofTexts?_eq_ok_iff, exists_eq_left]
  · obtain ⟨rfl, ha⟩ := ofTexts?_eq_ok_iff.1 h
    exact ⟨rfl, by rw [size_ofTexts, List.filter_eq_self.2 ha]⟩

end PatternList

end

namespace PatternList

open Pattern (isPattern)

theorem refused_iff_drops_of_unclosed_group :
    (∃ l, ofTexts? ["b", "a", "b"] = .ok l ∧ l = ofTexts ["b", "a", "b"] ∧ l.size = 3) ∧
      (ofTexts ["a", "(", "a", "[z"]).texts = ["a", "a"] ∧
      ofTexts? ["a", "(", "a", "[z"] = .error .malformed ∧
      (ofTexts (["a", "(", "a", "[z"] ++ ["b"])).anyMatch "b" = true ∧
      (ofTexts (["a", "(", "a", "[z"] ++ ["b"])).anyMiss "ab" = false := by
  have hb : ["b", "a", "b"].filter isPattern = ["b", "a", "b"] := by decide +kernel
  have ha : ["a", "(", "a", "[z"].filter isPattern = ["a", "a"] := by decide +kernel
  have he : Pattern.compile "(" = .error .malformed := by rfl
  obtain ⟨htexts, -, hok, hlist, -⟩ := refused_iff_drops ["b", "a", "b"]
  obtain ⟨htexts', -, -, -, herror, happend, hany⟩ := refused_iff_drops ["a", "(", "a", "[z"]
  obtain ⟨l, hl⟩ := hok.2 (htexts.trans hb)
  have hfirst : FirstError ["a", "(", "a", "[z"] "(" .malformed := ⟨["a"], ["a", "[z"], rfl, by decide +kernel, he⟩
  have hmatch : (ofTexts (["a", "(", "a", "[z"] ++ ["b"])).anyMatch "b" = true := by
    have hm : (ofTexts ["b"]).anyMatch "b" = true := by decide +kernel
    rw [happend, (hany _ _ _).1, hm, Bool.or_true]
  have hmiss : (ofTexts (["a", "(", "a", "[z"] ++ ["b"])).anyMiss "ab" = false := by
    have hm : (ofTexts ["a", "(", "a", "[z"]).anyMiss "ab" = false ∧ (ofTexts ["b"]).anyMiss "ab" = false := by
      decide +kernel
    rw [happend, (hany _ _ _).2, hm.1, hm.2, Bool.or_false]
  exact ⟨⟨l, hl, hlist l hl⟩, htexts'.trans ha, (herror _).2 ⟨"(", hfirst⟩, hmatch, hmiss⟩

end PatternList

end Verdict
