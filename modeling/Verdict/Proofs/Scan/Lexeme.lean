import Mathlib.Data.List.TakeWhile
import Mathlib.Tactic.Common
import Verdict.Token.Scan

namespace Verdict.Token

/-- What continues no token. -/
inductive Delimited : List Char → Prop
  | stop : Delimited []
  | blank {cs : List Char} : Delimited (' ' :: cs)
  | comma {cs : List Char} : Delimited (',' :: cs)
  | lparen {cs : List Char} : Delimited ('(' :: cs)
  | rparen {cs : List Char} : Delimited (')' :: cs)

structure Rereads (kind : TokenKind) (literal : List Char) : Prop where
  kind_ne : kind ≠ .eof
  reads : ∃ c cs, kind.spell literal = c :: cs ∧ isBlank c = false ∧
    ∀ rest, Delimited rest → lexeme c (cs ++ rest) = ⟨kind, literal, rest⟩

variable {c : Char} {cs body rest : List Char} {l : Lexeme} {p : Char → Bool}

lemma symbol_append (h : symbol cs = some l) (hr : Delimited rest) :
    symbol (l.literal ++ rest) = some ⟨l.kind, l.literal, rest⟩ := by
  unfold symbol at h
  split at h <;> simp at h <;> subst h
  case h_5 => cases hr <;> rfl
  case h_6 => cases hr <;> rfl
  all_goals rfl

lemma symbol_of_wordChar (hc : isWordChar c = true) (cs : List Char) : symbol (c :: cs) = none := by
  unfold symbol
  split <;> simp_all [isWordChar]

lemma quoted_append {literal : List Char} (h : quoted cs = some (literal, body)) (rest : List Char) :
    quoted (literal ++ '"' :: rest) = some (literal, rest) := by
  fun_induction quoted cs generalizing literal with
  | case1 => simp at h
  | case2 cs =>
    obtain ⟨rfl, -⟩ := by simpa using h
    rfl
  | case3 cs ih =>
    obtain ⟨⟨b, r⟩, hq, he⟩ := Option.map_eq_some_iff.1 h
    obtain ⟨rfl, rfl⟩ := by simpa using he
    simp [quoted, ih hq]
  | case4 c cs h₁ h₂ ih =>
    obtain ⟨⟨b, r⟩, hq, he⟩ := Option.map_eq_some_iff.1 h
    obtain ⟨rfl, rfl⟩ := by simpa using he
    have hcs := eq_of_quoted hq
    have hb : ∀ x, c = '\\' → b ++ '"' :: rest = '"' :: x → False := by
      intro x hc hx
      cases b with
      | nil => exact h₂ r hc hcs
      | cons y ys =>
        obtain ⟨rfl, -⟩ := List.cons.inj hx
        exact h₂ _ hc hcs
    rw [List.cons_append, quoted.eq_4 c _ h₁ hb, ih hq]
    rfl

lemma Delimited.takeWhile_eq (hr : Delimited rest)
    (hp : p ' ' = false ∧ p ',' = false ∧ p '(' = false ∧ p ')' = false) (cs : List Char) :
    (cs ++ rest).takeWhile p = cs.takeWhile p := by
  have hn : rest.takeWhile p = [] := by cases hr <;> simp_all
  rw [List.takeWhile_append, hn, List.append_nil]
  split
  · exact ((List.takeWhile_sublist p).eq_of_length ‹_›).symm
  · rfl

lemma Delimited.dropWhile_eq (hr : Delimited rest)
    (hp : p ' ' = false ∧ p ',' = false ∧ p '(' = false ∧ p ')' = false) (cs : List Char) :
    (cs ++ rest).dropWhile p = cs.dropWhile p ++ rest := by
  have hn : rest.dropWhile p = rest := by cases hr <;> simp_all
  rw [List.dropWhile_append, hn]
  split
  · simp_all
  · rfl

lemma Delimited.takeWhile_append (hr : Delimited rest)
    (hp : p ' ' = false ∧ p ',' = false ∧ p '(' = false ∧ p ')' = false) (cs : List Char) :
    (cs.takeWhile p ++ rest).takeWhile p = cs.takeWhile p := by
  rw [hr.takeWhile_eq hp, List.takeWhile_idem]

lemma Delimited.dropWhile_append (hr : Delimited rest)
    (hp : p ' ' = false ∧ p ',' = false ∧ p '(' = false ∧ p ')' = false) (cs : List Char) :
    (cs.takeWhile p ++ rest).dropWhile p = rest := by
  have hn : (cs.takeWhile p).dropWhile p = [] := List.dropWhile_eq_nil_iff.2 fun _ => List.mem_takeWhile_imp
  rw [hr.dropWhile_eq hp, hn, List.nil_append]

lemma lexeme_of_symbol (h : symbol (c :: cs) = some l) : lexeme c cs = l := by
  simp [lexeme, h]

lemma lexeme_number (hc : c.isDigit = true) (cs : List Char) :
    lexeme c cs = ⟨.number, c :: cs.takeWhile isNumberChar, cs.dropWhile isNumberChar⟩ := by
  have hs := symbol_of_wordChar (c := c) (by simp [isWordChar, Char.isAlphanum, hc]) cs
  unfold lexeme
  rw [hs]
  dsimp only
  split
  · simp at hc
  · simp at hc
  · simp at hc
  · rw [if_pos hc]

lemma lexeme_word (hc : isWordChar c = true) (hd : c.isDigit = false) (hq : ∀ body, c = 'r' → cs ≠ '"' :: body) :
    lexeme c cs =
      ⟨.ofWord (String.ofList (c :: cs.takeWhile isWordChar)), c :: cs.takeWhile isWordChar,
        cs.dropWhile isWordChar⟩ := by
  unfold lexeme
  rw [symbol_of_wordChar hc cs]
  dsimp only
  split
  · exact absurd rfl (hq _ rfl)
  · simp [isWordChar] at hc
  · simp [isWordChar] at hc
  · rw [if_neg (by simp [hd]), if_pos hc]

lemma not_blank_of_wordChar (hc : isWordChar c = true) : isBlank c = false := by
  by_contra hb
  simp only [isBlank, Bool.not_eq_false, Bool.or_eq_true, beq_iff_eq] at hb
  rcases hb with ((rfl | rfl) | rfl) | rfl <;> simp [isWordChar] at hc

lemma ofWord_ne_eof (word : String) : TokenKind.ofWord word ≠ .eof := by
  rw [TokenKind.ofWord]
  split <;> simp

lemma spell_of_symbol (h : symbol cs = some l) :
    l.kind ≠ .eof ∧ (∀ b, l.kind ≠ .boolean b) ∧ l.kind.spell l.literal = l.literal ∧ l.literal ≠ [] := by
  unfold symbol at h
  split at h <;> simp at h <;> subst h <;> simp [TokenKind.spell]

lemma rereads_symbol (hb : isBlank c = false) (h : symbol (c :: cs) = some l) : Rereads l.kind l.literal := by
  obtain ⟨hk, -, hs, hn⟩ := spell_of_symbol h
  have ha := spell_symbol_append h
  rw [hs] at ha
  cases hl : l.literal with
  | nil => exact absurd hl hn
  | cons x w =>
    rw [hl] at ha hs
    obtain ⟨rfl, -⟩ := List.cons.inj ha
    refine ⟨hk, x, w, hs, hb, fun rest hr => ?_⟩
    have hx := symbol_append h hr
    rw [hl] at hx
    exact lexeme_of_symbol hx

lemma quotedLexeme_append {kind : TokenKind} {literal whole : List Char} (h : quoted cs = some (literal, body))
    (rest : List Char) : quotedLexeme kind whole (literal ++ '"' :: rest) = ⟨kind, literal, rest⟩ := by
  simp only [quotedLexeme, quoted_append h rest]

lemma rereads_pattern {literal : List Char} (h : quoted cs = some (literal, body)) : Rereads .pattern literal := by
  refine ⟨by simp, 'r', '"' :: (literal ++ ['"']), rfl, rfl, fun rest _ => ?_⟩
  have hc : '"' :: (literal ++ ['"']) ++ rest = '"' :: (literal ++ '"' :: rest) := by simp
  have hl : lexeme 'r' ('"' :: (literal ++ '"' :: rest)) =
      quotedLexeme .pattern ('r' :: '"' :: (literal ++ '"' :: rest)) (literal ++ '"' :: rest) := rfl
  rw [hc, hl, quotedLexeme_append h]

lemma rereads_text {literal : List Char} (h : quoted cs = some (literal, body)) : Rereads .text literal := by
  refine ⟨by simp, '"', literal ++ ['"'], rfl, rfl, fun rest _ => ?_⟩
  have hc : literal ++ ['"'] ++ rest = literal ++ '"' :: rest := by simp
  have hl : lexeme '"' (literal ++ '"' :: rest) =
      quotedLexeme .text ('"' :: (literal ++ '"' :: rest)) (literal ++ '"' :: rest) := rfl
  rw [hc, hl, quotedLexeme_append h]

lemma rereads_list (hw : cs.takeWhile isWordChar ≠ []) : Rereads .listName (cs.takeWhile isWordChar) := by
  refine ⟨by simp, '@', cs.takeWhile isWordChar, rfl, rfl, fun rest hr => ?_⟩
  have hl : lexeme '@' (cs.takeWhile isWordChar ++ rest) = listLexeme (cs.takeWhile isWordChar ++ rest) := rfl
  rw [hl, listLexeme, hr.takeWhile_append ⟨rfl, rfl, rfl, rfl⟩, hr.dropWhile_append ⟨rfl, rfl, rfl, rfl⟩]
  split
  · exact absurd ‹_› hw
  · rfl

lemma rereads_number (hc : c.isDigit = true) (cs : List Char) :
    Rereads .number (c :: cs.takeWhile isNumberChar) := by
  have hb := not_blank_of_wordChar (c := c) (by simp [isWordChar, Char.isAlphanum, hc])
  refine ⟨by simp, c, cs.takeWhile isNumberChar, rfl, hb, fun rest hr => ?_⟩
  rw [lexeme_number hc, hr.takeWhile_append ⟨rfl, rfl, rfl, rfl⟩, hr.dropWhile_append ⟨rfl, rfl, rfl, rfl⟩]

lemma rereads_word (hc : isWordChar c = true) (hd : c.isDigit = false) (cs : List Char) :
    Rereads (.ofWord (String.ofList (c :: cs.takeWhile isWordChar))) (c :: cs.takeWhile isWordChar) := by
  refine ⟨ofWord_ne_eof _, c, cs.takeWhile isWordChar, spell_ofWord _ _, not_blank_of_wordChar hc, fun rest hr => ?_⟩
  rw [lexeme_word hc hd ?_, hr.takeWhile_append ⟨rfl, rfl, rfl, rfl⟩, hr.dropWhile_append ⟨rfl, rfl, rfl, rfl⟩]
  -- Neither the rest of a word nor what may follow it begins with a quote.
  intro body _ he
  cases hw : cs.takeWhile isWordChar with
  | nil =>
    rw [hw] at he
    cases hr <;> simp at he
  | cons x w =>
    have hx : isWordChar x = true := List.mem_takeWhile_imp (by rw [hw]; exact List.mem_cons_self)
    rw [hw] at he
    obtain ⟨rfl, -⟩ := List.cons.inj he
    simp [isWordChar] at hx

inductive Form : Char → List Char → Lexeme → Prop
  | symbol {c : Char} {cs : List Char} {l : Lexeme} : symbol (c :: cs) = some l → Form c cs l
  | pattern {body literal rest : List Char} : quoted body = some (literal, rest) →
      Form 'r' ('"' :: body) ⟨.pattern, literal, rest⟩
  | text {body literal rest : List Char} : quoted body = some (literal, rest) →
      Form '"' body ⟨.text, literal, rest⟩
  | list {cs : List Char} : cs.takeWhile isWordChar ≠ [] →
      Form '@' cs ⟨.listName, cs.takeWhile isWordChar, cs.dropWhile isWordChar⟩
  | number {c : Char} {cs : List Char} : c.isDigit = true →
      Form c cs ⟨.number, c :: cs.takeWhile isNumberChar, cs.dropWhile isNumberChar⟩
  | word {c : Char} {cs : List Char} : isWordChar c = true → c.isDigit = false →
      Form c cs ⟨.ofWord (String.ofList (c :: cs.takeWhile isWordChar)), c :: cs.takeWhile isWordChar,
        cs.dropWhile isWordChar⟩
  | illegal {c : Char} {cs literal rest : List Char} : Form c cs ⟨.illegal, literal, rest⟩

lemma form_lexeme (c : Char) (cs : List Char) : Form c cs (lexeme c cs) := by
  unfold lexeme
  split
  · rename_i hs
    exact .symbol hs
  · split
    · rw [quotedLexeme]
      split
      · rename_i hq
        exact .pattern hq
      · exact .illegal
    · rw [quotedLexeme]
      split
      · rename_i hq
        exact .text hq
      · exact .illegal
    · rw [listLexeme]
      split
      · exact .illegal
      · rename_i hw
        exact .list hw
    · split
      · rename_i hd
        exact .number hd
      · rename_i hd
        split
        · rename_i hc
          exact .word hc (by simpa using hd)
        · exact .illegal

theorem rereads_lexeme (hb : isBlank c = false) (hk : (lexeme c cs).kind ≠ .illegal) :
    Rereads (lexeme c cs).kind (lexeme c cs).literal := by
  have hf := form_lexeme c cs
  generalize lexeme c cs = l at hf hk ⊢
  cases hf with
  | symbol h => exact rereads_symbol hb h
  | pattern h => exact rereads_pattern h
  | text h => exact rereads_text h
  | list h => exact rereads_list h
  | number h => exact rereads_number h cs
  | word h hd =>
    dsimp only
    exact rereads_word h hd cs
  | illegal => exact absurd rfl hk

lemma ofWord_of_lexeme {b : Bool} (h : (lexeme c cs).kind = .boolean b) :
    TokenKind.ofWord (String.ofList (lexeme c cs).literal) = .boolean b := by
  have hf := form_lexeme c cs
  generalize lexeme c cs = l at hf h ⊢
  cases hf with
  | symbol hs => exact absurd h ((spell_of_symbol hs).2.1 b)
  | word =>
    dsimp only at h ⊢
    exact h
  | _ => simp at h

lemma lower_of_ofWord {word : String} {b : Bool} (h : TokenKind.ofWord word = .boolean b) :
    Text.lower word = bif b then "true" else "false" := by
  rw [TokenKind.ofWord] at h
  split at h <;> simp at h <;> subst h <;> assumption

lemma Rereads.lower_boolean {word : String} {b : Bool} (h : Rereads (.boolean b) word.toList) :
    Text.lower word = bif b then "true" else "false" := by
  obtain ⟨-, c, cs, -, -, hl⟩ := h
  have hc := hl [] .stop
  rw [List.append_nil] at hc
  have hw := ofWord_of_lexeme (by rw [hc] : (lexeme c cs).kind = .boolean b)
  rw [hc, String.ofList_toList] at hw
  exact lower_of_ofWord hw

end Verdict.Token
