import Verdict.Proofs.Scan.Concatenation
import Verdict.Proofs.Scan.Lossless

namespace Verdict

namespace Token

variable {c : Char} {cs ds body literal rest w : List Char} {l : Lexeme} {p : Char → Bool} {kind : TokenKind}

lemma eq_append_of_append {pre : List Char} (h : pre ++ (rest ++ ds) = cs ++ ds) : cs = pre ++ rest := by
  rw [← List.append_assoc] at h
  exact (List.append_cancel_right h).symm

lemma symbol_of_append (h : symbol (cs ++ ds) = some (l.append ds)) : symbol cs = some l := by
  have hs := spell_symbol_append h
  rw [(spell_of_symbol h).2.2.1] at hs
  obtain ⟨k, w, rest⟩ := l
  obtain rfl : cs = w ++ rest := eq_append_of_append hs
  clear hs
  rw [Lexeme.append, List.append_assoc] at h
  generalize hr : rest ++ ds = r at h
  generalize hcs : w ++ r = cs at h
  unfold symbol at h
  split at h <;> simp at h <;> obtain ⟨rfl, rfl, rfl⟩ := h
  case h_5 _ hn | h_6 _ hn =>
    cases rest with
    | nil => rfl
    | cons d rest =>
      have hd : d ≠ '=' := by
        rintro rfl
        exact hn _ (by rw [← hr]; rfl)
      simp_all [symbol]
  all_goals rfl

lemma symbol_eq_none_of_append (h : symbol (cs ++ ds) = none) : symbol cs = none := by
  cases hs : symbol cs with
  | none => rfl
  | some l =>
    unfold symbol at hs
    split at hs
    case h_5 | h_6 =>
      unfold symbol at h
      split at h <;> simp_all
    all_goals simp_all [symbol]

lemma takeWhile_of_append (hw : (cs ++ ds).takeWhile p = w) (hr : (cs ++ ds).dropWhile p = rest ++ ds) :
    cs.takeWhile p = w ∧ cs.dropWhile p = rest := by
  have hs := List.takeWhile_append_dropWhile (p := p) (l := cs ++ ds)
  rw [hw, hr] at hs
  obtain rfl := eq_append_of_append hs
  have hp : ∀ x ∈ w, p x = true := fun x hx => List.mem_takeWhile_imp (by rwa [hw])
  rw [List.append_assoc, List.takeWhile_append_of_pos hp] at hw
  rw [List.takeWhile_append_of_pos hp, List.dropWhile_append_of_pos hp]
  cases rest with
  | nil => simp
  | cons d rest =>
    have hd : p d = false := by
      by_contra hd
      simp [List.takeWhile_cons, hd] at hw
    simp [hd]

lemma quotedLexeme_of_append (whole whole' : List Char) (h : quotedLexeme kind whole (body ++ ds) = l.append ds)
    (hd : ds ≠ []) : quotedLexeme kind whole' body = l := by
  obtain ⟨k, literal, rest⟩ := l
  cases hq : quoted (body ++ ds) with
  | none => simp [quotedLexeme, hq, Lexeme.append, hd] at h
  | some r =>
    simp only [quotedLexeme, hq, Lexeme.append, Lexeme.mk.injEq] at h
    obtain ⟨rfl, rfl, hr⟩ := h
    have hb := eq_of_quoted hq
    rw [hr, ← List.cons_append] at hb
    rw [eq_append_of_append hb.symm]
    exact quotedLexeme_append hq rest

lemma listLexeme_of_append (h : listLexeme (cs ++ ds) = l.append ds) : listLexeme cs = l := by
  obtain ⟨k, literal, rest⟩ := l
  rw [listLexeme] at h ⊢
  cases hw : (cs ++ ds).takeWhile isWordChar with
  | nil =>
    have hs := List.takeWhile_append_dropWhile (p := isWordChar) (l := cs ++ ds)
    rw [hw, List.nil_append] at hs
    obtain ⟨ht, hr⟩ := takeWhile_of_append hw hs
    simp only [hw, Lexeme.append, Lexeme.mk.injEq, List.append_cancel_right_eq] at h
    obtain ⟨rfl, rfl, rfl⟩ := h
    simp [ht]
  | cons x w =>
    simp only [hw, Lexeme.append, Lexeme.mk.injEq] at h
    obtain ⟨rfl, rfl, hr⟩ := h
    obtain ⟨ht, hr⟩ := takeWhile_of_append hw hr
    simp [ht, hr]

lemma ne_quoted_of_append (h : lexeme 'r' (cs ++ ds) = l.append ds) (hd : ds ≠ []) (hcs : ∀ body, cs ≠ '"' :: body)
    (body : List Char) : cs ++ ds ≠ '"' :: body := by
  intro he
  cases cs with
  | nil =>
    -- the quote is the first character behind the cut, and then the literal does not end before it
    rw [List.nil_append] at he h
    have hlen := congrArg (fun l => l.rest.length) h
    subst he
    have hl : lexeme 'r' ('"' :: body) = quotedLexeme .pattern ('r' :: '"' :: body) body := rfl
    cases hq : quoted body with
    | none => simp [hl, quotedLexeme, hq, Lexeme.append] at hlen
    | some r =>
      have hb := congrArg List.length (eq_of_quoted hq)
      simp [hl, quotedLexeme, hq, Lexeme.append] at hlen hb
      omega
  | cons d cs =>
    obtain ⟨rfl, -⟩ := List.cons.inj he
    exact hcs cs rfl

lemma lexeme_of_append (h : lexeme c (cs ++ ds) = l.append ds) : lexeme c cs = l := by
  by_cases hd : ds = []
  · subst hd
    simpa [Lexeme.append] using h
  cases hm : symbol (c :: cs ++ ds) with
  | some m =>
    obtain rfl : m = l.append ds := (lexeme_of_symbol hm).symm.trans h
    exact lexeme_of_symbol (symbol_of_append hm)
  | none =>
    have hn := symbol_eq_none_of_append hm
    rw [List.cons_append] at hm
    by_cases hq : c = '"'
    · subst hq
      exact quotedLexeme_of_append ('"' :: (cs ++ ds)) _ h hd
    by_cases ha : c = '@'
    · subst ha
      exact listLexeme_of_append h
    obtain ⟨k, literal, rest⟩ := l
    by_cases hdigit : c.isDigit = true
    · rw [lexeme_number hdigit] at h ⊢
      simp only [Lexeme.append, Lexeme.mk.injEq] at h
      obtain ⟨rfl, rfl, hr⟩ := h
      obtain ⟨ht, hr⟩ := takeWhile_of_append rfl hr
      rw [ht, hr]
    rw [Bool.not_eq_true] at hdigit
    by_cases hw : isWordChar c = true
    · by_cases hp : ∃ body, c = 'r' ∧ cs = '"' :: body
      · obtain ⟨body, rfl, rfl⟩ := hp
        exact quotedLexeme_of_append ('r' :: '"' :: (body ++ ds)) _ h hd
      have hcs : ∀ body, c = 'r' → cs ≠ '"' :: body := fun body hc hcs => hp ⟨body, hc, hcs⟩
      have hword : ∀ body, c = 'r' → cs ++ ds ≠ '"' :: body := by
        rintro body rfl
        exact ne_quoted_of_append h hd (fun body => hcs body rfl) body
      rw [lexeme_word hw hdigit hword] at h
      rw [lexeme_word hw hdigit hcs]
      simp only [Lexeme.append, Lexeme.mk.injEq] at h
      obtain ⟨rfl, rfl, hr⟩ := h
      obtain ⟨ht, hr⟩ := takeWhile_of_append rfl hr
      rw [ht, hr]
    · rw [Bool.not_eq_true] at hw
      rw [lexeme_stray hm hq ha hdigit hw] at h
      rw [lexeme_stray hn hq ha hdigit hw]
      simpa [Lexeme.append] using h

lemma quotedLexeme_rest_of_illegal (whole : List Char) (hk : kind ≠ .illegal)
    (h : (quotedLexeme kind whole body).kind = .illegal) : (quotedLexeme kind whole body).rest = [] := by
  rw [quotedLexeme] at h ⊢
  split at h
  · exact absurd h hk
  · rfl

lemma rest_of_unclosed (h : Unclosed (lexeme c cs).kind (lexeme c cs).literal) : (lexeme c cs).rest = [] := by
  obtain ⟨hk, body, hl⟩ := h
  have hs := spell_lexeme_append c cs
  rw [hk] at hs
  rcases hl with hl | hl <;> rw [hl] at hs
  · obtain ⟨rfl, -⟩ := List.cons.inj hs
    have hn : TokenKind.text ≠ .illegal := by simp
    exact quotedLexeme_rest_of_illegal ('"' :: cs) hn hk
  · obtain ⟨rfl, hcs⟩ := List.cons.inj hs
    obtain ⟨after, rfl⟩ : ∃ after, cs = '"' :: after := ⟨_, hcs.symm⟩
    have hn : TokenKind.pattern ≠ .illegal := by simp
    exact quotedLexeme_rest_of_illegal ('r' :: '"' :: after) hn hk

end Token

lemma exists_between {cs ds cs' ds' : List Char} (h : cs ++ ds = cs' ++ ds') (hl : byteLength cs ≤ byteLength cs') :
    ∃ mid, cs' = cs ++ mid ∧ ds = mid ++ ds' := by
  rcases List.append_eq_append_iff.1 h with ⟨mid, hcs, hds⟩ | ⟨mid, rfl, rfl⟩
  · exact ⟨mid, hcs, hds⟩
  · have hmid : mid = [] := by
      by_contra hn
      have hp := byteLength_pos hn
      rw [byteLength_append] at hl
      omega
    subst hmid
    exact ⟨[], by simp, by simp⟩

open Token

lemma Token.lexeme_append_of_le {c : Char} {cs ds : List Char}
    (h : byteLength ((lexeme c (cs ++ ds)).kind.spell (lexeme c (cs ++ ds)).literal) ≤ byteLength (c :: cs)) :
    lexeme c (cs ++ ds) = (lexeme c cs).append ds := by
  have hs := spell_lexeme_append c (cs ++ ds)
  rw [← List.cons_append] at hs
  obtain ⟨rest, -, hr⟩ := exists_between hs h
  generalize hl : lexeme c (cs ++ ds) = l at hr
  obtain ⟨k, literal, _⟩ := l
  obtain rfl := hr
  rw [lexeme_of_append (l := ⟨k, literal, rest⟩) hl]
  rfl

namespace Scanner

variable {c : Char} {cs ds : List Char} {offset : Nat} {t : Token}

lemma stop_of_unclosed (h : t ∈ (Scanner.mk cs offset).tokens) (hu : Unclosed t.kind t.literal.toList) :
    t.span.stop = offset + byteLength cs := by
  induction hn : cs.length using Nat.strong_induction_on generalizing cs offset with
  | _ n ih =>
    cases cs with
    | nil => simp [tokens_nil] at h
    | cons c cs =>
      rw [List.length_cons] at hn
      by_cases hb : isBlank c = true
      · rw [tokens_blank hb] at h
        rw [ih cs.length (by omega) h rfl, byteLength, Nat.add_assoc]
      · rw [Bool.not_eq_true] at hb
        have hlt := length_rest_lexeme_lt c cs
        rw [tokens_cons hb] at h
        rw [← lexemeStop_add_rest]
        rcases List.mem_cons.1 h with rfl | h
        · rw [rest_of_unclosed (by simpa using hu)]
          rfl
        · exact ih _ (by omega) h rfl

theorem tokens_split (h : ∀ t ∈ (Scanner.mk (cs ++ ds) offset).tokens,
    t.span.stop ≤ offset + byteLength cs ∨ offset + byteLength cs ≤ t.span.start) :
    (Scanner.mk (cs ++ ds) offset).tokens =
      (Scanner.mk cs offset).tokens ++ (Scanner.mk ds (offset + byteLength cs)).tokens := by
  induction hn : cs.length using Nat.strong_induction_on generalizing cs offset with
  | _ n ih =>
    cases cs with
    | nil => simp [tokens_nil, byteLength]
    | cons c cs =>
      rw [List.length_cons] at hn
      rw [List.cons_append] at h ⊢
      by_cases hb : isBlank c = true
      · rw [tokens_blank hb, byteLength, ← Nat.add_assoc] at h
        rw [tokens_blank hb, tokens_blank hb, byteLength, ← Nat.add_assoc]
        exact ih cs.length (by omega) h rfl
      · rw [Bool.not_eq_true] at hb
        rw [tokens_cons hb] at h
        obtain ⟨hfirst, hrest⟩ := List.forall_mem_cons.1 h
        have hpos := c.utf8Size_pos
        have hlt := length_rest_lexeme_lt c cs
        have ha : lexeme c (cs ++ ds) = (lexeme c cs).append ds := by
          apply lexeme_append_of_le
          simp only [lexemeStop, byteLength] at hfirst ⊢
          omega
        rw [lexemeStop_append ha, ha, ← lexemeStop_add_rest] at hrest
        rw [tokens_cons hb, tokens_cons hb, lexemeStop_append ha, ha, ← lexemeStop_add_rest]
        exact congrArg (List.cons _) (ih _ (by omega) hrest rfl)

end Scanner

theorem tokenize_spaced_iff (first second : String) :
    tokenize (first ++ " " ++ second) =
        tokenize first ++ (tokenize second).map (Token.moved (Span.shift (first.utf8ByteSize + 1))) ↔
      ∀ t ∈ tokenize first, ¬ Unclosed t.kind t.literal.toList := by
  constructor
  · intro h t ht hu
    have hend := Scanner.stop_of_unclosed ht hu
    have hmem : t ∈ tokenize (first ++ " " ++ second) := by
      rw [h]
      exact List.mem_append_left _ ht
    have hend' := Scanner.stop_of_unclosed hmem hu
    rw [hend, byteLength_toList, byteLength_toList, String.utf8ByteSize_append, String.utf8ByteSize_append] at hend'
    have hspace : " ".utf8ByteSize = 1 := rfl
    omega
  · intro h
    rw [← byteLength_toList]
    exact Scanner.tokenize_spaced h second

end Verdict
