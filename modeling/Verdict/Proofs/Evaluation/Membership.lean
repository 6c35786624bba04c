import Verdict.Engine
import Verdict.Proofs.Evaluation.CanonicalMeaning
import Verdict.Proofs.Scan.Quoted

namespace Verdict

open Token (Rereads)
open Scanner (Yields)

variable {s l t p : String} {op : Operator} {ps : List String} {right : Expr}

def asked (name : String) (op : Operator) (right : String) : String :=
  name ++ " " ++ op.text ++ " " ++ right

def quotation (text : String) : String :=
  "\"" ++ text ++ "\""

def listing (texts : List String) : String :=
  "list(" ++ ", ".intercalate (texts.map quotation) ++ ")"

namespace Operator

def Searches (op : Operator) : Prop :=
  op = contains ∨ op = notContains

end Operator

lemma rereads_of_single {kind : TokenKind} {source literal : String} (hk : kind ≠ .illegal)
    (h : ∃ span, tokenize source = [⟨kind, literal, span⟩]) : Rereads kind literal.toList := by
  obtain ⟨span, ht⟩ := h
  have hm : ⟨kind, literal, span⟩ ∈ tokenize source := by
    rw [ht]
    exact .head _
  exact rereads_of_mem_tokenize hm hk

lemma rereads_pattern_of_quotation (h : ∃ span, tokenize (quotation p) = [⟨.text, p, span⟩]) :
    Rereads .pattern p.toList := by
  have hq : Token.quoted (p.toList ++ ['"']) = some (p.toList, []) :=
    Token.quoted_of_quotable (by decide) ((tokenize_quoted_iff p).1 h) rfl
  exact Token.rereads_pattern hq

namespace Expr

def listCall (texts : List String) : Expr :=
  call (identifier "list" ⟨0, 0⟩) (texts.map fun text => .text text ⟨0, 0⟩) ⟨0, 0⟩

lemma printArguments_texts (texts : List String) :
    printArguments (texts.map fun text => .text text ⟨0, 0⟩) = ", ".intercalate (texts.map quotation) := by
  induction texts with
  | nil => simp [printArguments]
  | cons t ts ih =>
    cases ts with
    | nil => simp [printArguments, print, quotation]
    | cons u us =>
      rw [List.map_cons, List.map_cons] at ih ⊢
      rw [List.map_cons, List.map_cons, String.intercalate_cons_cons, ← ih]
      rfl

lemma print_listCall (texts : List String) : (listCall texts).print = listing texts := by
  rw [listCall, print, printArguments_texts]
  rfl

lemma lexableAll_texts (h : ∀ t ∈ ps, Rereads .text t.toList) :
    LexableAll (ps.map fun text => .text text ⟨0, 0⟩) := by
  induction ps with
  | nil => trivial
  | cons t ts ih => exact ⟨h t (.head _), ih fun u hu => h u (.tail _ hu)⟩

lemma lexable_listCall (h : ∀ t ∈ ps, Rereads .text t.toList) : (listCall ps).Lexable :=
  have hk : TokenKind.ofWord "list" = .ident := by simp [TokenKind.ofWord, Text.lower]
  ⟨rereads_of_ofWord hk rfl rfl (by simp [Token.isWordChar]), lexableAll_texts h⟩

lemma heightAll_texts (texts : List String) : heightAll (texts.map fun text => .text text ⟨0, 0⟩) ≤ 1 := by
  induction texts with
  | nil => exact Nat.zero_le _
  | cons t ts ih => exact Nat.max_le.2 ⟨Nat.le.refl, ih⟩

lemma height_listCall (texts : List String) : (listCall texts).height ≤ 2 :=
  Nat.succ_le_succ (Nat.max_le.2 ⟨Nat.le.refl, heightAll_texts texts⟩)

end Expr

namespace Rule

lemma compile_asked (hs : Rereads .ident s.toList) (hl : right.Lexable) (hh : right.height ≤ 2) (op : Operator) :
    (compile (asked s op right.print)).2 = [] ∧ ∃ e, (compile (asked s op right.print)).1.expr = some e ∧
      e.spanless = (Expr.binary op (.identifier s ⟨0, 0⟩) right ⟨0, 0⟩).shape := by
  have hleft : (Expr.identifier s ⟨0, 0⟩).Lexable := hs
  have hcs : (asked s op right.print).toList = (Expr.identifier s ⟨0, 0⟩).print.toList ++
      ' ' :: (op.text.toList ++ ' ' :: right.print.toList) := by
    simp [asked, Expr.print]
  have hy := Expr.yields_operation (Expr.yields_print _ hleft) (Expr.yields_print right hl) op ⟨0, 0⟩
  obtain ⟨e, he, hspells⟩ := (hcs ▸ hy).whole
  have hheight := Expr.height_eq_of_shape (Expr.shape_eq_of_spanless he)
  have hc := compile_of_spells hspells
  rw [if_pos] at hc
  · exact ⟨hc.2, e, hc.1, he⟩
  · have hd := right.printDepth_le
    rw [hheight]
    simp only [Expr.printDepth, Expr.height, maxNesting]
    omega

end Rule

section

variable [PatternEngine] {b : Bindings}

namespace Operator

def AnsweredBy (op : Operator) (text source : String) : Prop :=
  ∃ p, Pattern.compile source = .ok p ∧ p.isMatch text = (op == contains)

lemma verdict_onPattern (h : op.Searches) : (op.onPattern t p).verdict = true ↔ op.AnsweredBy t p := by
  rw [AnsweredBy]
  cases hc : Pattern.compile p with
  | ok q =>
    have hv : op.onPattern t p = .boolean (q.isMatch t == (op == contains)) := by
      obtain rfl | rfl := h
      · simp [onPattern, hc]
      · simp [onPattern, hc]
    simp [hv, Value.verdict, Value.toBool?]
  | error e =>
    have hv : op.onPattern t p = .error (.badPattern p) := by
      obtain rfl | rfl := h
      · simp [onPattern, hc]
      · simp [onPattern, hc]
    simp [hv, Value.verdict, Value.toBool?]

lemma any_ofTexts (ps : List String) (f : Pattern → Bool) :
    (PatternList.ofTexts ps).patterns.any f = true ↔ ∃ p ∈ ps, ∃ q, Pattern.compile p = .ok q ∧ f q = true := by
  rw [PatternList.ofTexts, List.any_filterMap, List.any_eq_true]
  refine exists_congr fun p => and_congr_right fun _ => ?_
  cases Pattern.compile p with
  | ok q => simp [Except.toOption]
  | error e => simp [Except.toOption]

lemma verdict_onPatternList (h : op.Searches) :
    (op.onPatternList t (.ofTexts ps)).verdict = true ↔ ∃ p ∈ ps, op.AnsweredBy t p := by
  have hv : (op.onPatternList t (.ofTexts ps)).verdict =
      (PatternList.ofTexts ps).patterns.any fun q => q.isMatch t == (op == contains) := by
    obtain rfl | rfl := h
    · simp [onPatternList, Value.verdict, Value.toBool?, PatternList.anyMatch]
    · have hn : (notContains == contains) = false := rfl
      simp [onPatternList, Value.verdict, Value.toBool?, PatternList.anyMiss, hn]
  rw [hv, any_ofTexts]
  simp only [AnsweredBy, beq_iff_eq]

end Operator

namespace Expr

lemma lowerArguments_listCall (registry : Registry) (texts : List String) :
    (listCall texts).LowerArguments registry := by
  intro f args s hm _ literal value s' hb
  obtain ⟨-, rfl, -⟩ : f = _ ∧ args = _ ∧ s = _ := by simpa [listCall, evaluated] using hm
  simp at hb

lemma eval_listCall (texts : List String) (env : Environment) :
    (listCall texts).eval env .standard = .patternList (.ofTexts texts) := by
  have hg : Registry.standard.get? "list" = some Native.list := rfl
  have hm : (texts.map fun text => Expr.text text ⟨0, 0⟩).map literal = texts := by
    rw [List.map_map]
    exact List.map_id _
  rw [listCall, eval, evalCall, print, hg]
  dsimp only
  rw [Native.list, hm]

end Expr

namespace Rule

lemma evaluate_asked (hs : Rereads .ident s.toList) (hl : right.Lexable) (hh : right.height ≤ 2)
    (ha : right.LowerArguments .standard) (hb : b.get? s = some (.text t)) (op : Operator) :
    (compile (asked s op right.print)).1.evaluate b =
      (op.apply (.text t) (right.eval (.ofBindings b) .standard)).verdict := by
  obtain ⟨-, e, he, hspanless⟩ := compile_asked hs hl hh op
  have hlower : (Expr.binary op (.identifier s ⟨0, 0⟩) right ⟨0, 0⟩).LowerArguments .standard := by
    intro f args s' hm
    exact ha f args s' (by simpa [Expr.evaluated] using hm)
  have hleft : (Expr.identifier s ⟨0, 0⟩).eval (.ofBindings b) .standard = .text t := by
    rw [Expr.eval, Environment.lookup_ofBindings, hb]
    rfl
  rw [evaluate, evaluateWith, value_eq_eval he,
    Expr.eval_eq_of_spanless Registry.standard_readsLiterals hlower hspanless, Expr.eval, hleft]

lemma evaluate_asked_listing (hop : op.Searches) (hs : Rereads .ident s.toList)
    (hp : ∀ p ∈ ps, Rereads .text p.toList) (hb : b.get? s = some (.text t)) :
    (compile (asked s op (listing ps))).1.evaluate b = true ↔ ∃ p ∈ ps, op.AnsweredBy t p := by
  have hl : (Expr.listCall ps).Lexable := Expr.lexable_listCall hp
  have he := evaluate_asked hs hl (Expr.height_listCall ps) (Expr.lowerArguments_listCall .standard ps) hb op
  rw [Expr.print_listCall] at he
  rw [he, Expr.eval_listCall]
  exact Operator.verdict_onPatternList hop

lemma evaluate_asked_listRef (hop : op.Searches) (hs : Rereads .ident s.toList) (hl : Rereads .listName l.toList)
    (hb : b.get? s = some (.text t)) (hbl : b.get? l = some (.textList ps)) :
    (compile (asked s op ("@" ++ l))).1.evaluate b = true ↔ ∃ p ∈ ps, op.AnsweredBy t p := by
  have hx : (Expr.listRef l ⟨0, 0⟩).Lexable := hl
  have ha : (Expr.listRef l ⟨0, 0⟩).LowerArguments .standard := by
    intro f args s' hm
    simp [Expr.evaluated] at hm
  have hv : (Expr.listRef l ⟨0, 0⟩).eval (.ofBindings b) .standard = .patternList (.ofTexts ps) := by
    rw [Expr.eval, Environment.lookup_ofBindings, hbl]
    rfl
  have he := evaluate_asked hs hx (Nat.le_succ 1) ha hb op
  rw [Expr.print, hv] at he
  rw [he]
  exact Operator.verdict_onPatternList hop

lemma evaluate_asked_pattern (hop : op.Searches) (hs : Rereads .ident s.toList) (hp : Rereads .pattern p.toList)
    (hb : b.get? s = some (.text t)) :
    (compile (asked s op ("r" ++ quotation p))).1.evaluate b = true ↔ op.AnsweredBy t p := by
  have hx : (Expr.pattern p ⟨0, 0⟩).Lexable := hp
  have ha : (Expr.pattern p ⟨0, 0⟩).LowerArguments .standard := by
    intro f args s' hm
    simp [Expr.evaluated] at hm
  have hprint : (Expr.pattern p ⟨0, 0⟩).print = "r" ++ quotation p := by
    simp [Expr.print, quotation, String.ext_iff]
  have he := evaluate_asked hs hx (Nat.le_succ 1) ha hb op
  rw [hprint, Expr.eval] at he
  rw [he]
  exact Operator.verdict_onPattern hop

theorem evaluate_asked_of_patterns (hop : op = .contains ∨ op = .notContains)
    (hs : ∃ span, tokenize s = [⟨.ident, s, span⟩]) (hl : ∃ span, tokenize ("@" ++ l) = [⟨.listName, l, span⟩])
    (hp : ∀ p ∈ ps, ∃ span, tokenize (quotation p) = [⟨.text, p, span⟩])
    (hb : b.get? s = some (.text t)) (hbl : b.get? l = some (.textList ps)) :
    (compile (asked s op (listing ps))).1.evaluate b = (compile (asked s op ("@" ++ l))).1.evaluate b ∧
      ((compile (asked s op ("@" ++ l))).1.evaluate b = true ↔
        ∃ p ∈ ps, (compile (asked s op ("r" ++ quotation p))).1.evaluate b = true) ∧
      ∀ p ∈ ps, ∀ error, Pattern.compile p = .error error →
        (compile (asked s op ("r" ++ quotation p))).1.evaluate b = false := by
  have hs' := rereads_of_single (by decide) hs
  have hps : ∀ p ∈ ps, Rereads .text p.toList := fun p hm => rereads_of_single (by decide) (hp p hm)
  have hcalled := evaluate_asked_listing hop hs' hps hb
  have hbound := evaluate_asked_listRef hop hs' (rereads_of_single (by decide) hl) hb hbl
  have hsingle : ∀ p ∈ ps, ((compile (asked s op ("r" ++ quotation p))).1.evaluate b = true ↔ op.AnsweredBy t p) :=
    fun p hm => evaluate_asked_pattern hop hs' (rereads_pattern_of_quotation (hp p hm)) hb
  refine ⟨Bool.eq_iff_iff.2 (hcalled.trans hbound.symm), ?_, fun p hm error he => ?_⟩
  · rw [hbound]
    exact exists_congr fun p => and_congr_right fun hm => (hsingle p hm).symm
  · rw [← Bool.not_eq_true, hsingle p hm]
    rintro ⟨q, hq, -⟩
    simp [he] at hq

end Rule

end

namespace Rule

theorem evaluate_asked_of_unclosed_group : ∃ b : Bindings,
    b.get? "host" = some (.text "a.org") ∧ b.get? "bad" = some (.textList ["\\.org$", "("]) ∧
      ((compile (asked "host" .contains (listing ["\\.org$", "("]))).1.evaluate b = true ∧
        (compile (asked "host" .contains ("@" ++ "bad"))).1.evaluate b = true ∧
        (compile (asked "host" .contains ("r" ++ quotation "("))).1.evaluate b = false) ∧
      ((compile (asked "host" .notContains (listing ["\\.org$", "("]))).1.evaluate b = false ∧
        (compile (asked "host" .notContains ("@" ++ "bad"))).1.evaluate b = false ∧
        (compile (asked "host" .notContains ("r" ++ quotation "("))).1.evaluate b = false) := by
  have ht : tokenize "host" = [⟨.ident, "host", ⟨0, 4⟩⟩] ∧
      tokenize ("@" ++ "bad") = [⟨.listName, "bad", ⟨0, 4⟩⟩] ∧
      tokenize (quotation "\\.org$") = [⟨.text, "\\.org$", ⟨0, 8⟩⟩] ∧
      tokenize (quotation "(") = [⟨.text, "(", ⟨0, 3⟩⟩] := by
    decide +kernel
  obtain ⟨hs, hl, hp, hq⟩ := ht
  have hps : ∀ p ∈ ["\\.org$", "("], ∃ span, tokenize (quotation p) = [⟨.text, p, span⟩] :=
    List.forall_mem_cons.2 ⟨⟨_, hp⟩, List.forall_mem_singleton.2 ⟨_, hq⟩⟩
  have hb : Bindings.get? (.ofList [("host", .text "a.org"), ("bad", .textList ["\\.org$", "("])]) "host" =
      some (.text "a.org") := by
    simp [Bindings.ofList, Bindings.get?_insert]
  have hbl : Bindings.get? (.ofList [("host", .text "a.org"), ("bad", .textList ["\\.org$", "("])]) "bad" =
      some (.textList ["\\.org$", "("]) := by
    simp [Bindings.ofList, Bindings.get?_insert]
  generalize hbs : Bindings.ofList [("host", .text "a.org"), ("bad", .textList ["\\.org$", "("])] = b at hb hbl
  have hsuffix : (compile (asked "host" .contains ("r" ++ quotation "\\.org$"))).1.evaluate b = true ∧
      (compile (asked "host" .notContains ("r" ++ quotation "\\.org$"))).1.evaluate b = false := by
    rw [← hbs]
    decide +kernel
  have hunclosed : Pattern.compile "(" = .error .malformed := rfl
  obtain ⟨hcalled, hmatched, hnone⟩ := evaluate_asked_of_patterns (.inl rfl) ⟨_, hs⟩ ⟨_, hl⟩ hps hb hbl
  obtain ⟨hcalled', hmissed, hnone'⟩ := evaluate_asked_of_patterns (.inr rfl) ⟨_, hs⟩ ⟨_, hl⟩ hps hb hbl
  have hn := hnone "(" (.tail _ (.head _)) _ hunclosed
  have hn' := hnone' "(" (.tail _ (.head _)) _ hunclosed
  have hmatch : (compile (asked "host" .contains ("@" ++ "bad"))).1.evaluate b = true :=
    hmatched.2 ⟨_, .head _, hsuffix.1⟩
  have hmiss : (compile (asked "host" .notContains ("@" ++ "bad"))).1.evaluate b = false := by
    rw [← Bool.not_eq_true, hmissed]
    simp [hsuffix.2, hn']
  exact ⟨b, hb, hbl, ⟨hcalled.trans hmatch, hmatch, hn⟩, ⟨hcalled'.trans hmiss, hmiss, hn'⟩⟩

end Rule

end Verdict
