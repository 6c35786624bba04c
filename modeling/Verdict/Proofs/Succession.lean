import Verdict.Proofs.CleanSource
import Verdict.Proofs.Grammar.MovedTokens
import Verdict.Proofs.Scan.Lossless
import Verdict.Proofs.WrittenSource

namespace Verdict

open Token (Unclosed)

variable {f : Span → Span} {c past : Cursor} {fuel fuel' d : Nat} {e : Expr} {ts us rest : List Token}

lemma Cursor.moved_id (c : Cursor) (h : c.abandoned = false) : (Cursor.ofTokens c.tokens).moved id c = c := by
  have ht : c.tokens.map (Token.moved id) = c.tokens := List.map_id _
  simp [moved, ofTokens, ht, ← h]

namespace Pass

def moved (f : Span → Span) (p : Pass) : Pass :=
  ⟨p.statement.moved f, p.tokens.map (Token.moved f), p.complaints⟩

lemma moved_id (p : Pass) : p.moved id = p := by
  have hs : p.statement.moved id = p.statement := by
    have he : Expr.moved id = id := funext Expr.relabel_id
    simp [Statement.moved, he]
  have ht : p.tokens.map (Token.moved id) = p.tokens := List.map_id _
  simp [moved, hs, ht]

lemma ofNext_moved (c past : Cursor) (r : Statement × Cursor) :
    ofNext (c.moved f past) (r.1.moved f, r.2.moved f past) = (ofNext c r).moved f := by
  simp [ofNext, moved, Cursor.moved, Cursor.advance]

lemma all_moved (hf : ∀ s t : Span, f (s.union t) = (f s).union (f t)) (fuel : Nat) (c past : Cursor) :
    all fuel (c.moved f past) = (all fuel c).map (moved f) := by
  induction fuel generalizing c with
  | zero => rfl
  | succ fuel ih =>
    cases hc : c.tokens with
    | nil =>
      have hm : (c.moved f past).tokens = [] := by simp [hc]
      rw [all_nil hc, all_nil hm, List.map_nil]
    | cons t rest =>
      have hm : (c.moved f past).tokens = t.moved f :: rest.map (Token.moved f) := by simp [hc]
      rw [all_cons hc, all_cons hm, Statement.next_moved hf, ofNext_moved, Cursor.advance_moved, ih, List.map_cons]

lemma all_fuel (hl : c.Live) (hf : c.tokens.length ≤ fuel) (hf' : c.tokens.length ≤ fuel') :
    all fuel c = all fuel' c := by
  induction fuel generalizing c fuel' with
  | zero =>
    have hc := List.eq_nil_of_length_eq_zero (Nat.le_zero.1 hf)
    rw [all_nil hc, all_nil hc]
  | succ fuel ih =>
    cases hc : c.tokens with
    | nil => rw [all_nil hc, all_nil hc]
    | cons t rest =>
      have ha := hl.abandoned_eq_false hc
      have hn := Statement.next_cases t ha
      have hlt := hn.length_advance_lt hc
      cases fuel' with
      | zero => simp [hc] at hf'
      | succ fuel' =>
        have hi := ih (hn.live ha) (by omega) (show _ ≤ fuel' by omega)
        rw [all_cons hc, all_cons hc, hi]

lemma all_eq_ofTokens (hl : c.Live) (hf : c.tokens.length ≤ fuel) : all fuel c = ofTokens c.tokens := by
  cases hc : c.tokens with
  | nil => rw [all_nil hc, ofTokens, all_nil rfl]
  | cons t rest =>
    -- moving by the identity only puts the past of the cursor behind a fresh one
    have hm := all_moved (f := id) (fun _ _ => rfl) fuel (.ofTokens c.tokens) c
    have hid : (all fuel (Cursor.ofTokens c.tokens)).map (moved id) = all fuel (.ofTokens c.tokens) := by
      rw [funext moved_id, List.map_id']
    rw [Cursor.moved_id c (hl.abandoned_eq_false hc), hid] at hm
    rw [hm, ← hc]
    exact all_fuel live_ofTokens hf Nat.le.refl

lemma ofTokens_moved (hf : ∀ s t : Span, f (s.union t) = (f s).union (f t)) (ts : List Token) :
    ofTokens (ts.map (Token.moved f)) = (ofTokens ts).map (moved f) := by
  rw [ofTokens, List.length_map]
  exact all_moved hf ts.length (.ofTokens ts) (.ofTokens [])

lemma ofTokens_cons (t : Token) (rest : List Token) : ofTokens (t :: rest) =
    ofNext (.ofTokens (t :: rest)) (Statement.next t (.ofTokens (t :: rest))) ::
      ofTokens (Statement.next t (.ofTokens (t :: rest))).2.advance.tokens := by
  have hn := Statement.next_cases (c := .ofTokens (t :: rest)) t rfl
  have hlt := hn.length_advance_lt rfl
  rw [ofTokens, List.length_cons, all_cons rfl, all_eq_ofTokens (hn.live rfl) (Nat.le_of_lt_succ hlt)]

lemma ofTokens_of_spells (hs : e.Spells d Power.lowest ts) (hd : d < maxNesting) (hh : e.height ≤ maxNesting)
    (hk : (Cursor.kindOf rest).power = Power.lowest) :
    ofTokens (ts ++ rest) = ⟨⟨some e, e.span⟩, ts, []⟩ :: ofTokens rest := by
  obtain ⟨t, us, ht⟩ := List.exists_cons_of_ne_nil hs.ne_nil
  have hc : (Cursor.ofTokens (ts ++ rest)).tokens = ts ++ rest := rfl
  have hr := Statement.Next.advance_tokens hc hs.length_pos
  have hn := Statement.next_of_spells hs hc hk t
  have hcons : ofTokens (ts ++ rest) = ofNext (.ofTokens (ts ++ rest)) (Statement.next t (.ofTokens (ts ++ rest))) ::
      ofTokens (Statement.next t (.ofTokens (ts ++ rest))).2.advance.tokens := by
    rw [ht]
    exact ofTokens_cons t (us ++ rest)
  rw [if_pos ⟨hd, hh⟩] at hn
  rw [hcons, hn, hr]
  simp [ofNext, hr, hc]

lemma ofTokens_append (h : (ofTokens ts).flatMap complaints = []) (hk : (Cursor.kindOf us).power = Power.lowest) :
    ofTokens (ts ++ us) = ofTokens ts ++ ofTokens us := by
  induction hl : ts.length using Nat.strong_induction_on generalizing ts with
  | _ n ih =>
    cases ts with
    | nil => rfl
    | cons t rest =>
      have hn := Statement.next_cases (c := .ofTokens (t :: rest)) t rfl
      rw [ofTokens_cons, List.flatMap_cons, List.append_eq_nil_iff] at h
      generalize Statement.next t (.ofTokens (t :: rest)) = r at hn h
      cases hn with
      | @clean d e ts' rest' hc hd hh hs hstop =>
        have hts : t :: rest = ts' ++ rest' := hc
        have hpos := hs.length_pos
        have hlen := congrArg List.length hts
        rw [List.length_append] at hlen
        rw [Statement.Next.advance_tokens hc hpos] at h
        -- the first expression ends where it did: before the next one, or before what comes after the source
        have hstop' : (Cursor.kindOf (rest' ++ us)).power = Power.lowest := by
          cases rest' with
          | nil => exact hk
          | cons u vs => exact hstop
        rw [hts, List.append_assoc, ofTokens_of_spells hs hd hh hstop', ofTokens_of_spells hs hd hh hstop,
          List.cons_append, ih rest'.length (by omega) h.2 rfl]
      | faulty hds hl => simp [ofNext, hl.diagnostics_eq rfl, hds] at h

end Pass

lemma Statement.ofTokens_moved (hf : ∀ s t : Span, f (s.union t) = (f s).union (f t)) (ts : List Token) :
    (ofTokens (ts.map (Token.moved f))).1.expr = (ofTokens ts).1.expr.map (Expr.moved f) ∧
      (ofTokens (ts.map (Token.moved f))).2.diagnostics = (ofTokens ts).2.diagnostics := by
  rw [Pass.statement_eq, Pass.statement_eq, Pass.diagnostics_eq, Pass.diagnostics_eq, Pass.ofTokens_moved hf,
    List.flatMap_map, List.getLast?_map]
  refine ⟨?_, rfl⟩
  cases (Pass.ofTokens ts).getLast? <;> rfl

lemma TokenKind.power_eq_lowest {k : TokenKind} (ho : ∀ o, k ≠ .op o) (hp : k ≠ .lparen) : k.power = Power.lowest := by
  cases k with
  | op o => exact absurd rfl (ho o)
  | lparen => exact absurd rfl hp
  | _ => rfl

namespace Rule

variable {first second source : String} {t : Token}

lemma not_unclosed_of_clean (h : (compile source).2 = []) :
    ∀ t ∈ tokenize source, ¬ Unclosed t.kind t.literal.toList :=
  fun t ht hu => not_stray_of_clean h t ht (.inr hu.1)

theorem compile_spaced_of_clean (h : (compile first).2 = []) (ht : tokenize second = t :: rest)
    (ho : ∀ o, t.kind ≠ .op o) (hp : t.kind ≠ .lparen) :
    (compile (first ++ " " ++ second)).2 = (compile second).2 ∧
      (compile (first ++ " " ++ second)).1.statement =
        (compile second).1.statement.moved (Span.shift (first.utf8ByteSize + 1)) := by
  have hclean := h
  rw [compile_diagnostics] at hclean
  have htokens := Scanner.tokenize_spaced (not_unclosed_of_clean h) second
  rw [byteLength_toList] at htokens
  have hk : (Cursor.kindOf ((tokenize second).map (Token.moved (Span.shift (first.utf8ByteSize + 1))))).power =
      Power.lowest := by
    rw [Cursor.kindOf_map, ht]
    exact TokenKind.power_eq_lowest ho hp
  have hpasses := Pass.ofTokens_append hclean hk
  rw [← htokens, Pass.ofTokens_moved (Span.shift_union _)] at hpasses
  constructor
  · rw [compile_diagnostics, compile_diagnostics, hpasses, List.flatMap_append, hclean, List.flatMap_map]
    rfl
  · have hlast : ∀ source, (compile source).1.statement =
        ((Pass.ofTokens (tokenize source)).getLast?.map Pass.statement).getD .empty := fun _ => Pass.statement_eq
    have hne : ∃ p, (Pass.ofTokens (tokenize second)).getLast? = some p := by
      rw [ht, Pass.ofTokens_cons]
      exact ⟨_, List.getLast?_eq_getLast_of_ne_nil (List.cons_ne_nil _ _)⟩
    obtain ⟨p, hp⟩ := hne
    rw [hlast, hlast, hpasses, List.getLast?_append, List.getLast?_map, hp]
    rfl

theorem compile_spaced_of_malformed_call :
    (compile "x (b) == \"é\"").2 = [] ∧ (compile ("x (b) == \"é\"" ++ " " ++ "f(1.2.3, -")).2 =
        (compile "f(1.2.3, -").2 ∧
      (compile ("x (b) == \"é\"" ++ " " ++ "f(1.2.3, -")).1.statement =
        (compile "f(1.2.3, -").1.statement.moved (Span.shift ("x (b) == \"é\"".utf8ByteSize + 1)) := by
  have h : (compile "x (b) == \"é\"").2 = [] := by decide +kernel
  have ht : tokenize "f(1.2.3, -" = ⟨.ident, "f", ⟨0, 1⟩⟩ :: [⟨.lparen, "(", ⟨1, 2⟩⟩, ⟨.number, "1.2.3", ⟨2, 7⟩⟩,
      ⟨.comma, ",", ⟨7, 8⟩⟩, ⟨.op .sub, "-", ⟨9, 10⟩⟩] := by
    decide +kernel
  exact ⟨h, compile_spaced_of_clean h ht (by simp) (by simp)⟩

end Rule

end Verdict
