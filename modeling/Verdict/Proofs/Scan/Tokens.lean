import Verdict.Proofs.Scan.Lexeme

namespace Verdict

open Token

variable {c : Char} {cs ds : List Char} {offset : Nat} {t : Token} {kind : TokenKind} {literal : List Char}

namespace Scanner

lemma tokens_nil (offset : Nat) : (Scanner.mk [] offset).tokens = [] := by
  rw [tokens]
  simp [next]

lemma next_blank (hc : isBlank c = true) :
    next ⟨c :: cs, offset⟩ = next ⟨cs, offset + c.utf8Size⟩ := by
  simp [next, hc, byteLength, Nat.add_assoc]

lemma tokens_blank (hc : isBlank c = true) (cs : List Char) (offset : Nat) :
    (Scanner.mk (c :: cs) offset).tokens = (Scanner.mk cs (offset + c.utf8Size)).tokens := by
  rw [tokens, next_blank hc, ← tokens]

lemma kind_lexeme_ne_eof (hc : isBlank c = false) (cs : List Char) : (lexeme c cs).kind ≠ .eof := by
  by_cases hk : (lexeme c cs).kind = .illegal
  · simp [hk]
  · exact (rereads_lexeme hc hk).kind_ne

def lexemeStop (c : Char) (cs : List Char) (offset : Nat) : Nat :=
  offset + byteLength ((lexeme c cs).kind.spell (lexeme c cs).literal)

lemma next_cons (hc : isBlank c = false) (cs : List Char) (offset : Nat) : next ⟨c :: cs, offset⟩ =
    (⟨(lexeme c cs).kind, String.ofList (lexeme c cs).literal, ⟨offset, lexemeStop c cs offset⟩⟩,
      ⟨(lexeme c cs).rest, lexemeStop c cs offset⟩) := by
  simp only [next, List.takeWhile_cons, List.dropWhile_cons, hc, if_false, Bool.false_eq_true, byteLength,
    Nat.add_zero, lexemeStop]

lemma tokens_cons (hc : isBlank c = false) (cs : List Char) (offset : Nat) :
    (Scanner.mk (c :: cs) offset).tokens =
      ⟨(lexeme c cs).kind, String.ofList (lexeme c cs).literal, ⟨offset, lexemeStop c cs offset⟩⟩ ::
        (Scanner.mk (lexeme c cs).rest (lexemeStop c cs offset)).tokens := by
  rw [tokens, next_cons hc, if_neg (kind_lexeme_ne_eof hc cs)]

lemma exists_lexeme_of_mem {s : Scanner} (h : t ∈ s.tokens) :
    ∃ c cs, isBlank c = false ∧ t.kind = (lexeme c cs).kind ∧ t.literal = String.ofList (lexeme c cs).literal := by
  fun_induction tokens s with
  | case1 => simp at h
  | case2 s hk ih =>
    rcases List.mem_cons.1 h with rfl | h
    · rw [next] at hk ⊢
      split at hk
      · simp at hk
      · rename_i c cs hd
        have hb := List.head?_dropWhile_not isBlank s.rest
        rw [hd] at hb
        exact ⟨c, cs, by simpa using hb, rfl, rfl⟩
    · exact ih h

/-- The tokens between the characters `cs` and what continues none of them. -/
def Yields (cs : List Char) (good : List Token → Prop) : Prop :=
  ∀ rest offset, Delimited rest → ∃ ts offset',
    (Scanner.mk (cs ++ rest) offset).tokens = ts ++ (Scanner.mk rest offset').tokens ∧ good ts

namespace Yields

variable {good good' : List Token → Prop}

lemma imp (h : Yields cs good) (hg : ∀ ts, good ts → good' ts) : Yields cs good' := by
  intro rest offset hr
  obtain ⟨ts, offset', ht, ha⟩ := h rest offset hr
  exact ⟨ts, offset', ht, hg ts ha⟩

lemma whole {source : String} (h : Yields source.toList good) : good (tokenize source) := by
  obtain ⟨ts, offset, ht, hg⟩ := h [] 0 .stop
  rw [List.append_nil, tokens_nil, List.append_nil] at ht
  rw [tokenize, ofText, ht]
  exact hg

lemma nil : Yields [] (· = []) :=
  fun _ offset _ => ⟨[], offset, rfl, rfl⟩

lemma token (h : Rereads kind literal) :
    Yields (kind.spell literal) fun ts => ∃ span, ts = [⟨kind, String.ofList literal, span⟩] := by
  intro rest offset hr
  obtain ⟨hk, c, cs, hs, hb, hl⟩ := h
  have ht := tokens_cons hb (cs ++ rest) offset
  rw [hs]
  rw [hl rest hr] at ht
  exact ⟨[⟨kind, String.ofList literal, _⟩], _, ht, _, rfl⟩

lemma append (h : Yields cs good) (hd : ∀ rest, Delimited rest → Delimited (ds ++ rest)) (h' : Yields ds good') :
    Yields (cs ++ ds) fun ts => ∃ us vs, ts = us ++ vs ∧ good us ∧ good' vs := by
  intro rest offset hr
  obtain ⟨us, offset₁, hu, hus⟩ := h (ds ++ rest) offset (hd rest hr)
  obtain ⟨vs, offset₂, hv, hvs⟩ := h' rest offset₁ hr
  refine ⟨us ++ vs, offset₂, ?_, us, vs, rfl, hus, hvs⟩
  rw [List.append_assoc, hu, hv, List.append_assoc]

lemma blank (h : Yields cs good) : Yields (' ' :: cs) good := by
  intro rest offset hr
  rw [List.cons_append, tokens_blank rfl]
  exact h rest _ hr

lemma symbol (c : Char) (kind : TokenKind) (hb : isBlank c = false)
    (hs : ∀ cs, Token.symbol (c :: cs) = some ⟨kind, [c], cs⟩) (h : Yields cs good) :
    Yields (c :: cs) fun ts => ∃ t us, ts = t :: us ∧ t.kind = kind ∧ good us := by
  intro rest offset hr
  have ht := tokens_cons hb (cs ++ rest) offset
  obtain ⟨us, offset', hu, hus⟩ := h rest (lexemeStop c (cs ++ rest) offset) hr
  rw [lexeme_of_symbol (hs _), hu] at ht
  exact ⟨⟨kind, String.ofList [c], _⟩ :: us, offset', ht, _, us, rfl, rfl, hus⟩

end Yields

end Scanner

lemma rereads_of_mem_tokenize {source : String} (h : t ∈ tokenize source) (hk : t.kind ≠ .illegal) :
    Rereads t.kind t.literal.toList := by
  obtain ⟨c, cs, hc, hkind, hliteral⟩ := Scanner.exists_lexeme_of_mem h
  rw [hkind] at hk
  rw [hkind, hliteral, String.toList_ofList]
  exact rereads_lexeme hc hk

end Verdict
