import Verdict.Proofs.Grammar.Soundness
import Verdict.Statement

namespace Verdict

structure Pass where
  statement : Statement
  tokens : List Token
  complaints : List Diagnostic

namespace Pass

def ofNext (c : Cursor) (r : Statement × Cursor) : Pass :=
  ⟨r.1, c.tokens.take (c.tokens.length - r.2.advance.tokens.length), r.2.diagnostics.drop c.diagnostics.length⟩

def all : (fuel : Nat) → Cursor → List Pass
  | 0, _ => []
  | fuel + 1, c =>
    match c.tokens with
    | [] => []
    | t :: _ => ofNext c (Statement.next t c) :: all fuel (Statement.next t c).2.advance

def ofTokens (tokens : List Token) : List Pass :=
  all tokens.length (.ofTokens tokens)

inductive Valid : Pass → Prop
  | clean {d : Nat} {e : Expr} {ts : List Token} : d < maxNesting → e.height ≤ maxNesting →
      e.Spells d Power.lowest ts → Valid ⟨⟨some e, e.span⟩, ts, []⟩
  | faulty {t : Token} {ts : List Token} {ds : List Diagnostic} : ds ≠ [] →
      Valid ⟨⟨none, t.span⟩, t :: ts, ds⟩

end Pass

inductive Statement.Next (t : Token) (c : Cursor) : Statement × Cursor → Prop
  | clean {d : Nat} {e : Expr} {ts rest : List Token} : c.tokens = ts ++ rest → d < maxNesting →
      e.height ≤ maxNesting → Expr.Spells d Power.lowest e ts → (Cursor.kindOf rest).power = Power.lowest →
      Next t c (⟨some e, e.span⟩, c.skip (ts.length - 1))
  | faulty {ds : List Diagnostic} {d : Cursor} : ds ≠ [] → c.Leads ds d → Next t c (⟨none, t.span⟩, d)

variable {t : Token} {c : Cursor} {rest : List Token} {fuel : Nat} {r : Statement × Cursor}

lemma Statement.next_cases (t : Token) (ha : c.abandoned = false) : Next t c (next t c) := by
  have h := Expr.read_sound maxNesting Power.lowest c (by decide) ha
  rw [next]
  generalize Expr.read maxNesting Power.lowest c = r at h
  cases h with
  | failed hds hl => exact .faulty hds hl
  | @done m ts rest hc _ hg =>
    obtain ⟨e, n⟩ := m
    obtain ⟨hh, hle, ⟨d, hd, hs⟩, hstop⟩ := hg
    exact .clean hc hd (hh ▸ hle) (hs.mono (Nat.zero_le _)) (Nat.le_zero.1 hstop)

namespace Statement.Next

lemma suffix (h : Next t c r) : r.2.tokens <:+ c.tokens := by
  cases h with
  | clean => exact List.drop_suffix _ _
  | faulty _ hl => exact hl.tokens_suffix

lemma length_advance_lt (h : Next t c r) (hc : c.tokens = t :: rest) :
    r.2.advance.tokens.length < c.tokens.length := by
  have hs := h.suffix.length_le
  simp only [Cursor.advance, List.length_tail, hc, List.length_cons] at hs ⊢
  omega

lemma tokens_append (h : Next t c r) : (Pass.ofNext c r).tokens ++ r.2.advance.tokens = c.tokens :=
  List.suffix_iff_eq_append.1 ((List.tail_suffix _).trans h.suffix)

lemma diagnostics_append (h : Next t c r) (ha : c.abandoned = false) :
    r.2.diagnostics = c.diagnostics ++ (Pass.ofNext c r).complaints := by
  cases h with
  | clean => simp [Pass.ofNext]
  | faulty _ hl => simp [Pass.ofNext, hl.diagnostics_eq ha]

lemma tokens_eq_nil (h : Next t c r) (ha : c.abandoned = false) (hr : r.2.abandoned = true) :
    r.2.advance.tokens = [] := by
  cases h with
  | clean => simp [ha] at hr
  | faulty _ hl => simp [Cursor.advance, hl.tokens_eq_nil ha hr]

lemma advance_tokens {ts : List Token} (hc : c.tokens = ts ++ rest) (hp : 0 < ts.length) :
    (c.skip (ts.length - 1)).advance.tokens = rest := by
  rw [Cursor.advance_eq_skip, Cursor.skip_skip, Nat.sub_add_cancel hp]
  simp [hc]

lemma valid (h : Next t c r) (ha : c.abandoned = false) (hc : c.tokens = t :: rest) :
    (Pass.ofNext c r).Valid := by
  have ht := h.tokens_append
  have hlt := h.length_advance_lt hc
  cases h with
  | @clean d e ts rest hts hd hh hs _ =>
    have hr := advance_tokens hts hs.length_pos
    have hp : Pass.ofNext c (⟨some e, e.span⟩, c.skip (ts.length - 1)) = ⟨⟨some e, e.span⟩, ts, []⟩ := by
      simp [Pass.ofNext, hr, hts]
    exact hp ▸ .clean hd hh hs
  | @faulty ds d hds hl =>
    have hcomplaints : (Pass.ofNext c (⟨none, t.span⟩, d)).complaints = ds := by
      simp [Pass.ofNext, hl.diagnostics_eq ha]
    cases hp : (Pass.ofNext c (⟨none, t.span⟩, d)).tokens with
    | nil =>
      rw [hp, List.nil_append] at ht
      exact absurd (congrArg List.length ht) (Nat.ne_of_lt hlt)
    | cons u us =>
      rw [hp, hc, List.cons_append] at ht
      obtain rfl := (List.cons.inj ht).1
      have he : Pass.ofNext c (⟨none, u.span⟩, d) = ⟨⟨none, u.span⟩, u :: us, ds⟩ := by
        rw [← hp, ← hcomplaints]
        rfl
      exact he ▸ .faulty hds

end Statement.Next

def Cursor.Live (c : Cursor) : Prop :=
  c.abandoned = true → c.tokens = []

lemma Cursor.Live.abandoned_eq_false (h : c.Live) (hc : c.tokens = t :: rest) : c.abandoned = false := by
  by_contra ha
  simp [h (by simpa using ha)] at hc

lemma Statement.Next.live (h : Statement.Next t c r) (ha : c.abandoned = false) : r.2.advance.Live :=
  fun hr => h.tokens_eq_nil ha hr

namespace Statement

lemma last_nil (hc : c.tokens = []) (kept : Statement) : last fuel kept c = (kept, c) := by
  cases fuel <;> simp [last, hc]

lemma last_cons (hc : c.tokens = t :: rest) (kept : Statement) :
    last (fuel + 1) kept c = last fuel (next t c).1 (next t c).2.advance := by
  simp [last, hc]

end Statement

namespace Pass

lemma all_nil (hc : c.tokens = []) : all fuel c = [] := by
  cases fuel <;> simp [all, hc]

lemma all_cons (hc : c.tokens = t :: rest) :
    all (fuel + 1) c = ofNext c (Statement.next t c) :: all fuel (Statement.next t c).2.advance := by
  simp [all, hc]

lemma valid_of_mem {p : Pass} (hl : c.Live) (hp : p ∈ all fuel c) : p.Valid := by
  induction fuel generalizing c with
  | zero => simp [all] at hp
  | succ fuel ih =>
    cases hc : c.tokens with
    | nil => simp [all_nil hc] at hp
    | cons t rest =>
      have ha := hl.abandoned_eq_false hc
      have hn := Statement.next_cases t ha
      rw [all_cons hc] at hp
      rcases List.mem_cons.1 hp with rfl | hp
      · exact hn.valid ha hc
      · exact ih (hn.live ha) hp

lemma flatMap_tokens_all (hl : c.Live) (hf : c.tokens.length ≤ fuel) :
    (all fuel c).flatMap tokens = c.tokens := by
  induction fuel generalizing c with
  | zero => simpa [all] using (List.eq_nil_of_length_eq_zero (Nat.le_zero.1 hf)).symm
  | succ fuel ih =>
    cases hc : c.tokens with
    | nil => simp [all_nil hc]
    | cons t rest =>
      have ha := hl.abandoned_eq_false hc
      have hn := Statement.next_cases t ha
      have hlt := hn.length_advance_lt hc
      rw [all_cons hc, List.flatMap_cons, ih (hn.live ha) (by omega), hn.tokens_append, hc]

lemma last_eq (hl : c.Live) (hf : c.tokens.length ≤ fuel) (kept : Statement) :
    (Statement.last fuel kept c).1 = ((all fuel c).getLast?.map statement).getD kept ∧
      (Statement.last fuel kept c).2.diagnostics = c.diagnostics ++ (all fuel c).flatMap complaints := by
  induction fuel generalizing c kept with
  | zero => simp [Statement.last, all]
  | succ fuel ih =>
    cases hc : c.tokens with
    | nil => simp [Statement.last_nil hc, all_nil hc]
    | cons t rest =>
      have ha := hl.abandoned_eq_false hc
      have hn := Statement.next_cases t ha
      have hlt := hn.length_advance_lt hc
      obtain ⟨hs, hd⟩ := ih (hn.live ha) (by omega) (Statement.next t c).1
      rw [Statement.last_cons hc, all_cons hc, hs, hd]
      refine ⟨?_, ?_⟩
      · rw [List.getLast?_cons]
        cases (all fuel (Statement.next t c).2.advance).getLast? <;> rfl
      · have hadv : (Statement.next t c).2.advance.diagnostics = (Statement.next t c).2.diagnostics := rfl
        rw [hadv, hn.diagnostics_append ha, List.flatMap_cons, List.append_assoc]

variable {tokens : List Token}

lemma live_ofTokens : (Cursor.ofTokens tokens).Live := by
  simp [Cursor.Live, Cursor.ofTokens]

lemma valid_ofTokens {p : Pass} (hp : p ∈ ofTokens tokens) : p.Valid :=
  valid_of_mem live_ofTokens hp

lemma flatMap_tokens_ofTokens : (ofTokens tokens).flatMap Pass.tokens = tokens :=
  flatMap_tokens_all live_ofTokens Nat.le.refl

lemma statement_eq : (Statement.ofTokens tokens).1 =
    ((ofTokens tokens).getLast?.map statement).getD .empty :=
  (last_eq live_ofTokens Nat.le.refl _).1

lemma diagnostics_eq : (Statement.ofTokens tokens).2.diagnostics = (ofTokens tokens).flatMap complaints :=
  (last_eq live_ofTokens Nat.le.refl _).2

end Pass

end Verdict
