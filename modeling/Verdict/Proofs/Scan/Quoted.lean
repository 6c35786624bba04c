import Verdict.Proofs.Scan.Lossless

namespace Verdict

namespace Token

variable {c p q : Char} {body cs literal opening rest : List Char} {kind : TokenKind} {offset : Nat}

/-- Behind the character `p`, every quote of the text stands directly behind a backslash, and its end does not. -/
structure Quotable (p : Char) (cs : List Char) : Prop where
  inside : ∀ pre post, cs = pre ++ '"' :: post → pre.getLastD p = '\\'
  last : cs.getLastD p ≠ '\\'

lemma quotable_nil : Quotable p [] ↔ p ≠ '\\' :=
  ⟨fun h => h.last, fun h => ⟨fun _ _ he => by simp at he, h⟩⟩

lemma quotable_cons : Quotable p (c :: cs) ↔ (c = '"' → p = '\\') ∧ Quotable c cs := by
  constructor
  · intro h
    refine ⟨?_, fun pre post he => ?_, ?_⟩
    · rintro rfl
      exact h.inside [] cs rfl
    · have hp := h.inside (c :: pre) post (by rw [he]; rfl)
      rwa [List.getLastD_cons] at hp
    · have hl := h.last
      rwa [List.getLastD_cons] at hl
  · rintro ⟨hc, h⟩
    refine ⟨fun pre post he => ?_, ?_⟩
    · cases pre with
      | nil => exact hc (List.cons.inj he).1
      | cons d ds =>
        obtain ⟨rfl, htail⟩ := List.cons.inj he
        rw [List.getLastD_cons]
        exact h.inside ds post htail
    · rw [List.getLastD_cons]
      exact h.last

lemma Quotable.behind (h : Quotable p (c :: cs)) (hc : c ≠ '"') (q : Char) : Quotable q (c :: cs) := by
  rw [quotable_cons] at h ⊢
  exact ⟨fun hq => absurd hq hc, h.2⟩

lemma Quotable.exists_behind (h : Quotable c cs) (hc : c = '\\' → ∀ ds, cs ≠ '"' :: ds) :
    ∃ q, q ≠ '\\' ∧ Quotable q cs := by
  by_cases hs : c = '\\'
  · cases cs with
    | nil => exact absurd hs (quotable_nil.1 h)
    | cons d ds =>
      have hd : d ≠ '"' := by
        rintro rfl
        exact hc hs ds rfl
      exact ⟨'"', by decide, h.behind hd _⟩
  · exact ⟨c, hs, h⟩

lemma quotable_of_quoted (hp : p ≠ '\\') (h : quoted cs = some (literal, rest)) : Quotable p literal := by
  fun_induction quoted cs generalizing literal p with
  | case1 => simp at h
  | case2 cs =>
    obtain ⟨rfl, -⟩ := by simpa using h
    exact quotable_nil.2 hp
  | case3 cs ih =>
    obtain ⟨⟨b, r⟩, hq, he⟩ := Option.map_eq_some_iff.1 h
    obtain ⟨rfl, rfl⟩ := by simpa using he
    have hb := ih (p := '"') (by decide) hq
    simpa [quotable_cons] using hb
  | case4 c cs hc hb ih =>
    obtain ⟨⟨b, r⟩, hq, he⟩ := Option.map_eq_some_iff.1 h
    obtain ⟨rfl, rfl⟩ := by simpa using he
    refine quotable_cons.2 ⟨fun he => absurd he hc, ?_⟩
    have hcs := eq_of_quoted hq
    by_cases hs : c = '\\'
    · cases b with
      | nil => exact absurd hcs (hb _ hs)
      | cons d ds =>
        have hd : d ≠ '"' := by
          rintro rfl
          exact hb _ hs hcs
        exact (ih (p := '"') (by decide) hq).behind hd c
    · exact ih hs hq

lemma quoted_of_quotable (hp : p ≠ '\\') (h : Quotable p literal) (hcs : literal ++ '"' :: rest = cs) :
    quoted cs = some (literal, rest) := by
  fun_induction quoted cs generalizing literal p with
  | case1 => simp at hcs
  | case2 cs =>
    cases literal with
    | nil => simpa using hcs.symm
    | cons d ds =>
      obtain ⟨rfl, -⟩ := List.cons.inj hcs
      exact absurd ((quotable_cons.1 h).1 rfl) hp
  | case3 cs ih =>
    rcases literal with _ | ⟨d, _ | ⟨d', b⟩⟩
    · simp at hcs
    · obtain ⟨rfl, -⟩ := List.cons.inj hcs
      exact absurd rfl (quotable_nil.1 (quotable_cons.1 h).2)
    · simp only [List.cons_append, List.cons.injEq] at hcs
      obtain ⟨rfl, rfl, hb⟩ := hcs
      rw [ih (p := '"') (by decide) (quotable_cons.1 (quotable_cons.1 h).2).2 hb]
      rfl
  | case4 c cs hc hb ih =>
    cases literal with
    | nil => exact absurd (List.cons.inj hcs).1.symm hc
    | cons d ds =>
      obtain ⟨rfl, htail⟩ := List.cons.inj hcs
      have hn : d = '\\' → ∀ xs, ds ≠ '"' :: xs := by
        rintro hs xs rfl
        exact hb _ hs htail.symm
      obtain ⟨q, hq, hds⟩ := (quotable_cons.1 h).2.exists_behind hn
      rw [ih hq hds htail]
      rfl

lemma getLastD_of_quoted_eq_none {pre post : List Char} (hp : p ≠ '\\') (h : quoted cs = none)
    (hcs : cs = pre ++ '"' :: post) : pre.getLastD p = '\\' := by
  fun_induction quoted cs generalizing pre p with
  | case1 => simp at hcs
  | case2 => simp at h
  | case3 cs ih =>
    rw [Option.map_eq_none_iff] at h
    rcases pre with _ | ⟨d, _ | ⟨d', pre⟩⟩
    · simp at hcs
    · obtain ⟨rfl, -⟩ := List.cons.inj hcs
      rfl
    · simp only [List.cons_append, List.cons.injEq] at hcs
      obtain ⟨rfl, rfl, hcs⟩ := hcs
      rw [List.getLastD_cons, List.getLastD_cons]
      exact ih (by decide) h hcs
  | case4 c cs hc _ ih =>
    rw [Option.map_eq_none_iff] at h
    cases pre with
    | nil => exact absurd (List.cons.inj hcs).1 hc
    | cons d ds =>
      obtain ⟨rfl, htail⟩ := List.cons.inj hcs
      rw [List.getLastD_cons]
      by_cases hs : c = '\\'
      · cases ds with
        | nil => exact hs
        | cons x xs =>
          rw [List.getLastD_cons, ← List.getLastD_cons (a := '"')]
          exact ih (by decide) h htail
      · exact ih hs h htail

lemma quoted_eq_some_iff : quoted cs = some (literal, rest) ↔ cs = literal ++ '"' :: rest ∧ Quotable '"' literal :=
  ⟨fun h => ⟨eq_of_quoted h, quotable_of_quoted (by decide) h⟩,
    fun ⟨hcs, h⟩ => quoted_of_quotable (by decide) h hcs.symm⟩

inductive Opens : TokenKind → List Char → Prop
  | text : Opens .text ['"']
  | pattern : Opens .pattern ['r', '"']

namespace Opens

lemma spell_eq (h : Opens kind opening) (literal : List Char) :
    kind.spell literal = opening ++ literal ++ ['"'] := by
  cases h <;> rfl

lemma exists_lexeme (h : Opens kind opening) (body : List Char) : ∃ c cs, opening ++ body = c :: cs ∧
    isBlank c = false ∧ lexeme c cs = quotedLexeme kind (opening ++ body) body := by
  cases h with
  | text => exact ⟨'"', body, rfl, rfl, rfl⟩
  | pattern => exact ⟨'r', '"' :: body, rfl, rfl, rfl⟩

lemma next_of_closed (h : Opens kind opening) (hq : quoted body = some (literal, rest)) (offset : Nat) :
    (Scanner.mk (opening ++ body) offset).next =
      (⟨kind, String.ofList literal, ⟨offset, offset + byteLength (opening ++ literal ++ ['"'])⟩⟩,
        ⟨rest, offset + byteLength (opening ++ literal ++ ['"'])⟩) := by
  obtain ⟨c, cs, hc, hb, hl⟩ := h.exists_lexeme body
  rw [quotedLexeme, hq] at hl
  rw [hc, Scanner.next_cons hb, Scanner.lexemeStop, hl, h.spell_eq]

lemma next_of_unclosed (h : Opens kind opening) (hq : quoted body = none) (offset : Nat) :
    (Scanner.mk (opening ++ body) offset).next =
      (⟨.illegal, String.ofList (opening ++ body), ⟨offset, offset + byteLength (opening ++ body)⟩⟩,
        ⟨[], offset + byteLength (opening ++ body)⟩) := by
  obtain ⟨c, cs, hc, hb, hl⟩ := h.exists_lexeme body
  rw [quotedLexeme, hq] at hl
  rw [hc] at hl ⊢
  rw [Scanner.next_cons hb, Scanner.lexemeStop, hl]
  rfl

end Opens

end Token

open Token

variable {kind : TokenKind} {opening : List Char}

lemma tokenize_quoted_iff (t : String) :
    (∃ span, tokenize ("\"" ++ t ++ "\"") = [⟨.text, t, span⟩]) ↔ Quotable '"' t.toList := by
  have hcs : ("\"" ++ t ++ "\"").toList = ['"'] ++ (t.toList ++ ['"']) := by simp
  rw [tokenize, Scanner.ofText, hcs, Scanner.tokens]
  constructor
  · rintro ⟨span, ht⟩
    cases hq : quoted (t.toList ++ ['"']) with
    | none =>
      rw [Opens.text.next_of_unclosed hq] at ht
      simp at ht
    | some r =>
      obtain ⟨literal, rest⟩ := r
      rw [Opens.text.next_of_closed hq, if_neg (by simp)] at ht
      obtain rfl : String.ofList literal = t := congrArg Token.literal (List.cons.inj ht).1
      rw [String.toList_ofList]
      exact quotable_of_quoted (by decide) hq
  · intro h
    have hq : quoted (t.toList ++ ['"']) = some (t.toList, []) := quoted_of_quotable (by decide) h rfl
    rw [Opens.text.next_of_closed hq, if_neg (by simp), Scanner.tokens_nil, String.ofList_toList]
    exact ⟨_, rfl⟩

theorem next_quoted (h : Opens kind opening) (body : List Char) (offset : Nat) :
    ((∃ literal rest, body = literal ++ '"' :: rest ∧ Quotable '"' literal ∧
        (Scanner.mk (opening ++ body) offset).next =
          (⟨kind, String.ofList literal, ⟨offset, offset + byteLength (opening ++ literal ++ ['"'])⟩⟩,
            ⟨rest, offset + byteLength (opening ++ literal ++ ['"'])⟩)) ∨
      (∀ pre post, body = pre ++ '"' :: post → pre.getLastD '"' = '\\') ∧
        (Scanner.mk (opening ++ body) offset).next =
          (⟨.illegal, String.ofList (opening ++ body), ⟨offset, offset + byteLength (opening ++ body)⟩⟩,
            ⟨[], offset + byteLength (opening ++ body)⟩)) ∧
    ∀ t : String, (∃ span, tokenize ("\"" ++ t ++ "\"") = [⟨.text, t, span⟩]) ↔ Quotable '"' t.toList := by
  refine ⟨?_, tokenize_quoted_iff⟩
  cases hq : quoted body with
  | none => exact .inr ⟨fun _ _ => getLastD_of_quoted_eq_none (by decide) hq, h.next_of_unclosed hq offset⟩
  | some r =>
    obtain ⟨literal, rest⟩ := r
    obtain ⟨hb, hl⟩ := quoted_eq_some_iff.1 hq
    exact .inl ⟨literal, rest, hb, hl, h.next_of_closed hq offset⟩

theorem next_quoted_of_backslashes : Opens .pattern ['r', '"'] ∧
    ∃ literal rest, ['a', '\\', '\\', '"', 'b', '"', ' ', 'c'] = literal ++ '"' :: rest ∧ Quotable '"' literal ∧
      (Scanner.mk ['r', '"', 'a', '\\', '\\', '"', 'b', '"', ' ', 'c'] 3).next =
        (⟨.pattern, String.ofList literal, ⟨3, 3 + byteLength (['r', '"'] ++ literal ++ ['"'])⟩⟩,
          ⟨rest, 3 + byteLength (['r', '"'] ++ literal ++ ['"'])⟩) := by
  have h := next_quoted .pattern ['a', '\\', '\\', '"', 'b', '"', ' ', 'c'] 3
  refine ⟨.pattern, h.1.resolve_right fun hn => ?_⟩
  exact absurd (hn.1 ['a', '\\', '\\', '"', 'b'] [' ', 'c'] rfl) (by decide)

end Verdict
