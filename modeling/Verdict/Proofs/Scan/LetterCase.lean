import Mathlib
import Verdict.Proofs.Scan.Tokens

namespace Verdict

open Token

variable {c : Char} {word : String} {kind : TokenKind} {o : Operator}

lemma toLower_eq_self (h : c.toLower.isAlpha = false) : c.toLower = c := by
  apply Char.toLower_eq_of_not_isUpper
  rw [Char.isAlpha_toLower_eq_isAlpha, Char.isAlpha, Bool.or_eq_false_iff] at h
  simp [h.1]

lemma isDigit_eq_false_of_isAlpha (h : c.isAlpha = true) : c.isDigit = false := by
  simp only [Char.isAlpha, Char.isUpper, Char.isLower, Char.isDigit, Bool.or_eq_true, Bool.and_eq_true,
    Bool.and_eq_false_iff, decide_eq_true_eq, decide_eq_false_iff_not, UInt32.le_iff_toNat_le, ge_iff_le] at h ⊢
  have hupper : 'A'.val.toNat = 65 := rfl
  have hlower : 'a'.val.toNat = 97 := rfl
  have hnine : '9'.val.toNat = 57 := rfl
  omega

lemma isWordChar_toLower (c : Char) : isWordChar c.toLower = isWordChar c := by
  by_cases ha : c.isAlpha = true
  · simp [isWordChar, Char.isAlphanum, ha]
  · rw [toLower_eq_self (by simpa using ha)]

lemma isDigit_toLower (c : Char) : c.toLower.isDigit = c.isDigit := by
  by_cases ha : c.isAlpha = true
  · rw [isDigit_eq_false_of_isAlpha ha, isDigit_eq_false_of_isAlpha (by simpa using ha)]
  · rw [toLower_eq_self (by simpa using ha)]

lemma ofWord_congr {word' : String} (h : Text.lower word = Text.lower word') :
    TokenKind.ofWord word = .ofWord word' := by
  rw [TokenKind.ofWord, TokenKind.ofWord, h]

lemma rereads_of_ofWord {cs : List Char} (hk : TokenKind.ofWord word = kind) (hl : word.toList = c :: cs)
    (hd : c.isDigit = false) (hw : ∀ d ∈ word.toList, isWordChar d = true) : Rereads kind word.toList := by
  have hcs : cs.takeWhile isWordChar = cs :=
    List.takeWhile_eq_self_iff.2 fun d hd => hw d (by simp [hl, hd])
  have hr := rereads_word (hw c (by simp [hl])) hd cs
  rwa [hcs, ← hl, String.ofList_toList, hk] at hr

lemma rereads_of_lower_eq {word' : String} {cs : List Char} (h : Text.lower word = Text.lower word')
    (hk : TokenKind.ofWord word' = kind) (hl : word'.toList = c :: cs) (hd : c.isDigit = false)
    (hw : ∀ d ∈ word'.toList, isWordChar d = true) : Rereads kind word.toList := by
  have hmap : word.toList.map Char.toLower = word'.toList.map Char.toLower := by
    rw [← Text.toList_lower, ← Text.toList_lower, h]
  have hword : ∀ d ∈ word.toList, isWordChar d = true := by
    intro d hm
    have hm' : d.toLower ∈ word'.toList.map Char.toLower := hmap ▸ List.mem_map_of_mem hm
    obtain ⟨d', hd', he⟩ := List.mem_map.1 hm'
    rw [← isWordChar_toLower, ← he, isWordChar_toLower]
    exact hw d' hd'
  cases hl' : word.toList with
  | nil => simp [hl, hl'] at hmap
  | cons c' cs' =>
    rw [hl, hl', List.map_cons, List.map_cons] at hmap
    have hc : c'.isDigit = false := by
      rw [← isDigit_toLower, (List.cons.inj hmap).1, isDigit_toLower, hd]
    rw [← hl']
    exact rereads_of_ofWord ((ofWord_congr h).trans hk) hl' hc hword

lemma rereads_boolean (b : Bool) : Rereads (.boolean b) (bif b then "true" else "false").toList := by
  cases b
  · exact rereads_of_ofWord (by simp [TokenKind.ofWord, Text.lower]) rfl rfl (by simp [isWordChar])
  · exact rereads_of_ofWord (by simp [TokenKind.ofWord, Text.lower]) rfl rfl (by simp [isWordChar])

namespace Operator

lemma text_ne_empty (o : Operator) : o.text ≠ "" := by
  cases o <;> simp [text]

lemma lower_text (o : Operator) : Text.lower o.text = o.text := by
  cases o <;> rfl

lemma text_cases (o : Operator) :
    (TokenKind.ofWord o.text = .op o ∧ ∀ c ∈ o.text.toList, isWordChar c = true ∧ c.isDigit = false) ∨
      ∀ c ∈ o.text.toList, c.isAlpha = false := by
  cases o <;> simp [text, TokenKind.ofWord, Text.lower, isWordChar]

end Operator

lemma rereads_operator (o : Operator) : Rereads (.op o) o.text.toList := by
  have h : ∃ c cs, o.text.toList = c :: cs ∧ isBlank c = false ∧ lexeme c cs = ⟨.op o, o.text.toList, []⟩ := by
    cases o <;> exact ⟨_, _, rfl, rfl, rfl⟩
  obtain ⟨c, cs, -, hb, hl⟩ := h
  have hk : (lexeme c cs).kind ≠ .illegal := by simp [hl]
  have hr := Token.rereads_lexeme hb hk
  rwa [hl] at hr

lemma rereads_of_lower (h : Text.lower word = o.text) : Rereads (.op o) word.toList := by
  rcases o.text_cases with ⟨hk, hw⟩ | ha
  · have hn : o.text.toList ≠ [] := mt String.toList_eq_nil_iff.1 o.text_ne_empty
    obtain ⟨c, cs, hl⟩ := List.exists_cons_of_ne_nil hn
    have hc : c ∈ o.text.toList := by simp [hl]
    exact rereads_of_lower_eq (h.trans o.lower_text.symm) hk hl (hw c hc).2 fun d hd => (hw d hd).1
  · have hm : ∀ c ∈ word.toList, c.toLower ∈ o.text.toList := by
      intro c hc
      rw [← h, Text.toList_lower]
      exact List.mem_map_of_mem hc
    have hmap : word.toList.map Char.toLower = word.toList :=
      calc word.toList.map Char.toLower
        _ = word.toList.map id := List.map_congr_left fun c hc => toLower_eq_self (ha _ (hm c hc))
        _ = word.toList := List.map_id _
    have hword : word = o.text := by
      rw [← h, ← String.toList_inj, Text.toList_lower, hmap]
    rw [hword]
    exact rereads_operator o

end Verdict
