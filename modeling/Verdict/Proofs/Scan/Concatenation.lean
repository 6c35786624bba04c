import Verdict.Proofs.Scan.Tokens

/-! A text in front of another one keeps its tokens, if what separates them continues no token and no quoted literal of
the first text is left open. -/

namespace Verdict

def Span.shift (k : Nat) (s : Span) : Span :=
  ⟨s.start + k, s.stop + k⟩

lemma Span.shift_union (k : Nat) (s t : Span) : (s.union t).shift k = (s.shift k).union (t.shift k) := by
  simp only [shift, union, Nat.add_min_add_right, Nat.add_max_add_right]

namespace Token

def moved (f : Span → Span) (t : Token) : Token :=
  { t with span := f t.span }

def Unclosed (kind : TokenKind) (literal : List Char) : Prop :=
  kind = .illegal ∧ ∃ body, literal = '"' :: body ∨ literal = 'r' :: '"' :: body

def Lexeme.append (l : Lexeme) (rest : List Char) : Lexeme :=
  ⟨l.kind, l.literal, l.rest ++ rest⟩

variable {c d : Char} {cs ds rest body : List Char} {l : Lexeme} {p : Char → Bool} {kind : TokenKind}

lemma symbol_append_of_some (h : symbol cs = some l) (hr : Delimited rest) :
    symbol (cs ++ rest) = some (l.append rest) := by
  unfold symbol at h
  split at h <;> simp at h <;> subst h
  case h_5 cs hn =>
    cases cs with
    | nil => cases hr <;> rfl
    | cons d ds => simp_all [symbol, Lexeme.append]
  case h_6 cs hn =>
    cases cs with
    | nil => cases hr <;> rfl
    | cons d ds => simp_all [symbol, Lexeme.append]
  all_goals rfl

lemma isSome_symbol_cons (hd : d ≠ '=') (ds : List Char) : (symbol (c :: d :: ds)).isSome = (symbol [c]).isSome := by
  unfold symbol
  split <;> simp_all

lemma isSome_symbol_cons_eq (ds : List Char) : (symbol (c :: '=' :: ds)).isSome = (symbol [c, '=']).isSome := by
  unfold symbol
  split <;> simp_all

lemma symbol_append_of_none (h : symbol (c :: cs) = none) (hr : Delimited rest) :
    symbol (c :: (cs ++ rest)) = none := by
  -- Only an equals sign continues a symbol, and it is in the first text.
  have hs : (symbol (c :: (cs ++ rest))).isSome = (symbol (c :: cs)).isSome := by
    cases cs with
    | nil =>
      cases hr with
      | stop => rw [List.append_nil]
      | _ => exact isSome_symbol_cons (by decide) _
    | cons d ds =>
      by_cases hd : d = '='
      · subst hd
        exact (isSome_symbol_cons_eq _).trans (isSome_symbol_cons_eq _).symm
      · exact (isSome_symbol_cons hd _).trans (isSome_symbol_cons hd _).symm
  rwa [h, Option.isSome_none, Option.isSome_eq_false_iff, Option.isNone_iff_eq_none] at hs

lemma Delimited.append_ne_quote (hr : Delimited rest) (h : ∀ ds, cs ≠ '"' :: ds) (ds : List Char) :
    cs ++ rest ≠ '"' :: ds := by
  intro he
  cases cs with
  | nil => cases hr <;> simp at he
  | cons d ds =>
    obtain ⟨rfl, -⟩ := List.cons.inj he
    exact h ds rfl

lemma quotedLexeme_append_of_closed (h : ¬ Unclosed (quotedLexeme kind ds cs).kind (quotedLexeme kind ds cs).literal)
    (hd : ∃ body, ds = '"' :: body ∨ ds = 'r' :: '"' :: body) (whole : List Char) :
    quotedLexeme kind whole (cs ++ rest) = (quotedLexeme kind ds cs).append rest := by
  cases hq : quoted cs with
  | none => simp [quotedLexeme, hq, Unclosed, hd] at h
  | some r =>
    obtain ⟨literal, after⟩ := r
    have ha := quoted_append hq (after ++ rest)
    have hcs : cs ++ rest = literal ++ '"' :: (after ++ rest) := by
      rw [eq_of_quoted hq]
      simp
    rw [← hcs] at ha
    simp [quotedLexeme, hq, ha, Lexeme.append]

lemma listLexeme_append (hr : Delimited rest) (cs : List Char) :
    listLexeme (cs ++ rest) = (listLexeme cs).append rest := by
  rw [listLexeme, listLexeme, hr.takeWhile_eq ⟨rfl, rfl, rfl, rfl⟩, hr.dropWhile_eq ⟨rfl, rfl, rfl, rfl⟩]
  split <;> rfl

lemma lexeme_stray (hs : symbol (c :: cs) = none) (hq : c ≠ '"') (ha : c ≠ '@') (hd : c.isDigit = false)
    (hw : isWordChar c = false) : lexeme c cs = ⟨.illegal, [c], cs⟩ := by
  unfold lexeme
  rw [hs]
  dsimp only
  split
  · simp [isWordChar] at hw
  · exact absurd rfl hq
  · exact absurd rfl ha
  · rw [if_neg (by simp [hd]), if_neg (by simp [hw])]

lemma lexeme_append (h : ¬ Unclosed (lexeme c cs).kind (lexeme c cs).literal) (hr : Delimited rest) :
    lexeme c (cs ++ rest) = (lexeme c cs).append rest := by
  cases hs : symbol (c :: cs) with
  | some l =>
    rw [lexeme_of_symbol hs]
    exact lexeme_of_symbol (symbol_append_of_some hs hr)
  | none =>
    by_cases hq : c = '"'
    · subst hq
      exact quotedLexeme_append_of_closed h ⟨cs, .inl rfl⟩ _
    by_cases ha : c = '@'
    · subst ha
      exact listLexeme_append hr cs
    by_cases hd : c.isDigit = true
    · rw [lexeme_number hd, lexeme_number hd, hr.takeWhile_eq ⟨rfl, rfl, rfl, rfl⟩,
        hr.dropWhile_eq ⟨rfl, rfl, rfl, rfl⟩]
      rfl
    rw [Bool.not_eq_true] at hd
    by_cases hw : isWordChar c = true
    · by_cases hp : ∃ body, c = 'r' ∧ cs = '"' :: body
      · obtain ⟨body, rfl, rfl⟩ := hp
        exact quotedLexeme_append_of_closed h ⟨body, .inr rfl⟩ _
      have hn : ∀ body, c = 'r' → cs ≠ '"' :: body := fun body hc hcs => hp ⟨body, hc, hcs⟩
      rw [lexeme_word hw hd hn, lexeme_word hw hd fun body hc => hr.append_ne_quote (fun ds => hn ds hc) body,
        hr.takeWhile_eq ⟨rfl, rfl, rfl, rfl⟩, hr.dropWhile_eq ⟨rfl, rfl, rfl, rfl⟩, Lexeme.append]
    · rw [Bool.not_eq_true] at hw
      rw [lexeme_stray hs hq ha hd hw, lexeme_stray (symbol_append_of_none hs hr) hq ha hd hw]
      rfl

end Token

open Token

namespace Scanner

variable {c : Char} {cs rest : List Char} {offset : Nat}

lemma lexemeStop_add (c : Char) (cs : List Char) (offset k : Nat) :
    lexemeStop c cs (offset + k) = lexemeStop c cs offset + k := by
  rw [lexemeStop, lexemeStop, Nat.add_right_comm]

lemma lexemeStop_append (h : lexeme c (cs ++ rest) = (lexeme c cs).append rest) :
    lexemeStop c (cs ++ rest) offset = lexemeStop c cs offset := by
  rw [lexemeStop, lexemeStop, h]
  rfl

lemma lexemeStop_add_rest (c : Char) (cs : List Char) (offset : Nat) :
    lexemeStop c cs offset + byteLength (lexeme c cs).rest = offset + byteLength (c :: cs) := by
  rw [lexemeStop, Nat.add_assoc, ← byteLength_append, spell_lexeme_append]

lemma tokens_add (cs : List Char) (offset k : Nat) :
    (Scanner.mk cs (offset + k)).tokens = (Scanner.mk cs offset).tokens.map (Token.moved (Span.shift k)) := by
  induction hn : cs.length using Nat.strong_induction_on generalizing cs offset with
  | _ n ih =>
    cases cs with
    | nil => rw [tokens_nil, tokens_nil, List.map_nil]
    | cons c cs =>
      rw [List.length_cons] at hn
      by_cases hb : isBlank c = true
      · rw [tokens_blank hb, tokens_blank hb, Nat.add_right_comm]
        exact ih cs.length (by omega) cs _ rfl
      · rw [Bool.not_eq_true] at hb
        have hlt := length_rest_lexeme_lt c cs
        rw [tokens_cons hb, tokens_cons hb, lexemeStop_add, ih _ (by omega) (lexeme c cs).rest _ rfl]
        rfl

theorem tokens_append (hr : Delimited rest)
    (h : ∀ t ∈ (Scanner.mk cs offset).tokens, ¬ Unclosed t.kind t.literal.toList) :
    (Scanner.mk (cs ++ rest) offset).tokens =
      (Scanner.mk cs offset).tokens ++ (Scanner.mk rest (offset + byteLength cs)).tokens := by
  induction hn : cs.length using Nat.strong_induction_on generalizing cs offset with
  | _ n ih =>
    cases cs with
    | nil => simp [tokens_nil, byteLength]
    | cons c cs =>
      rw [List.length_cons] at hn
      rw [List.cons_append]
      by_cases hb : isBlank c = true
      · rw [tokens_blank hb] at h ⊢
        rw [tokens_blank hb, ih cs.length (by omega) h rfl, byteLength, Nat.add_assoc]
      · rw [Bool.not_eq_true] at hb
        have hlt := length_rest_lexeme_lt c cs
        rw [tokens_cons hb] at h ⊢
        obtain ⟨hl, hrest⟩ := List.forall_mem_cons.1 h
        have ha := lexeme_append (by simpa using hl) hr
        rw [tokens_cons hb, lexemeStop_append ha, ha, ← lexemeStop_add_rest]
        exact congrArg (List.cons _) (ih _ (by omega) hrest rfl)

lemma tokenize_spaced {first : String} (h : ∀ t ∈ tokenize first, ¬ Unclosed t.kind t.literal.toList)
    (second : String) : tokenize (first ++ " " ++ second) =
      tokenize first ++ (tokenize second).map (Token.moved (Span.shift (byteLength first.toList + 1))) := by
  have hcs : (first ++ " " ++ second).toList = first.toList ++ ' ' :: second.toList := by simp
  have ha := tokens_add second.toList 0 (byteLength first.toList + 1)
  rw [Nat.zero_add] at ha
  rw [tokenize, ofText, hcs, tokens_append .blank h, Nat.zero_add, tokens_blank rfl]
  exact congrArg (tokenize first ++ ·) ha

lemma Yields.source {source : String} (h : ∀ t ∈ tokenize source, ¬ Unclosed t.kind t.literal.toList) :
    Yields source.toList fun ts => ∃ k, ts = (tokenize source).map (Token.moved (Span.shift k)) := by
  intro rest offset hr
  have hs : (Scanner.mk source.toList offset).tokens = (tokenize source).map (Token.moved (Span.shift offset)) := by
    have ha := tokens_add source.toList 0 offset
    rwa [Nat.zero_add] at ha
  have hn : ∀ t ∈ (Scanner.mk source.toList offset).tokens, ¬ Unclosed t.kind t.literal.toList := by
    rw [hs, List.forall_mem_map]
    exact h
  have ht := tokens_append hr hn
  rw [hs] at ht
  exact ⟨_, _, ht, offset, rfl⟩

end Scanner

end Verdict
