import Mathlib.Tactic.Common
import Verdict.Cursor

namespace Verdict.Cursor

def skip (c : Cursor) (n : Nat) : Cursor :=
  { c with tokens := c.tokens.drop n, moves := c.moves + n }

@[simp] lemma skip_zero (c : Cursor) : c.skip 0 = c := rfl

@[simp] lemma skip_skip (c : Cursor) (m n : Nat) : (c.skip m).skip n = c.skip (m + n) := by
  simp [skip, Nat.add_assoc]

lemma advance_eq_skip (c : Cursor) : c.advance = c.skip 1 := by
  simp [advance, skip]

@[simp] lemma tokens_skip (c : Cursor) (n : Nat) : (c.skip n).tokens = c.tokens.drop n := rfl

@[simp] lemma abandoned_skip (c : Cursor) (n : Nat) : (c.skip n).abandoned = c.abandoned := rfl

@[simp] lemma diagnostics_skip (c : Cursor) (n : Nat) : (c.skip n).diagnostics = c.diagnostics := rfl

@[simp] lemma peek_skip (c : Cursor) (n : Nat) : (c.skip n).peek = kindOf (c.tokens.drop (n + 1)) := by
  simp [peek, skip]

@[simp] lemma current_skip (c : Cursor) (n : Nat) : (c.skip n).current = kindOf (c.tokens.drop n) := rfl

@[simp] lemma current_advance (c : Cursor) : c.advance.current = c.peek := rfl

lemma abandon_skip (c : Cursor) {n : Nat} (h : n ≤ c.tokens.length) : (c.skip n).abandon = c.abandon := by
  have hm : c.moves + n + (c.tokens.length - n) = c.moves + c.tokens.length := by omega
  by_cases ha : c.abandoned = true <;> simp [abandon, report, skip, ha, hm]

@[simp] lemma peek_abandon (c : Cursor) : c.abandon.peek = .eof := rfl

@[simp] lemma report_abandon (c : Cursor) (d : Diagnostic) : c.abandon.report d = c.abandon := rfl

lemma length_advance (c : Cursor) : c.advance.tokens.length = c.tokens.length - 1 :=
  List.length_tail

lemma tokens_report (c : Cursor) (d : Diagnostic) : (c.report d).tokens = c.tokens := by
  by_cases ha : c.abandoned = true <;> simp [report, ha]

lemma moves_report (c : Cursor) (d : Diagnostic) : (c.report d).moves = c.moves := by
  by_cases ha : c.abandoned = true <;> simp [report, ha]

lemma abandoned_report (c : Cursor) (d : Diagnostic) : (c.report d).abandoned = c.abandoned := by
  by_cases ha : c.abandoned = true <;> simp [report, ha]

lemma length_report_le (c : Cursor) (d : Diagnostic) :
    (c.report d).diagnostics.length ≤ c.diagnostics.length + 1 := by
  by_cases ha : c.abandoned = true <;> simp [report, ha]

lemma moves_abandon (c : Cursor) : c.abandon.moves = c.moves + c.tokens.length := by
  rw [abandon, moves_report, tokens_report]

lemma length_abandon_le (c : Cursor) : c.abandon.diagnostics.length ≤ c.diagnostics.length + 1 :=
  c.length_report_le .nestedTooDeeply

lemma tokens_ne_nil {c : Cursor} (h : c.current ≠ .eof) : c.tokens ≠ [] := by
  intro he
  simp [current, kindOf, he] at h

lemma tokens_ne_nil_of_peek {c : Cursor} (h : c.peek ≠ .eof) : c.tokens ≠ [] := by
  intro he
  simp [peek, kindOf, he] at h

inductive Leads : Cursor → List Diagnostic → Cursor → Prop
  | refl (c : Cursor) : Leads c [] c
  | advance {c d : Cursor} {ds : List Diagnostic} : c.tokens ≠ [] → Leads c.advance ds d → Leads c ds d
  | report {c e : Cursor} {d : Diagnostic} {ds : List Diagnostic} : d ≠ .nestedTooDeeply →
      Leads (c.report d) ds e → Leads c (d :: ds) e
  | abandon (c : Cursor) : Leads c [.nestedTooDeeply] c.abandon

namespace Leads

variable {c d e : Cursor} {ds es : List Diagnostic}

lemma trans (h : Leads c ds d) (hd : d.abandoned = false) (h' : Leads d es e) : Leads c (ds ++ es) e := by
  induction h with
  | refl c => exact h'
  | advance hc _ ih => exact .advance hc (ih hd h')
  | report hn _ ih => exact .report hn (ih hd h')
  | abandon c => simp [Cursor.abandon] at hd

lemma skip {n : Nat} (hn : n ≤ c.tokens.length) (h : Leads (c.skip n) ds d) : Leads c ds d := by
  induction n generalizing c with
  | zero => simpa using h
  | succ n ih =>
    refine .advance (List.ne_nil_of_length_pos (by omega)) (ih ?_ ?_)
    · simp [Cursor.advance]
      omega
    · rwa [advance_eq_skip, skip_skip, Nat.add_comm]

lemma tokens_suffix (h : Leads c ds d) : d.tokens <:+ c.tokens := by
  induction h with
  | refl c => exact List.suffix_rfl
  | advance _ _ ih => exact ih.trans (List.tail_suffix _)
  | @report c e d ds _ _ ih => by_cases ha : c.abandoned = true <;> simpa [Cursor.report, ha] using ih
  | abandon c => exact List.nil_suffix

lemma diagnostics_eq (h : Leads c ds d) (hc : c.abandoned = false) :
    d.diagnostics = c.diagnostics ++ ds := by
  induction h with
  | refl c => simp
  | advance _ _ ih => exact ih hc
  | @report c e d ds _ _ ih => simpa [Cursor.report, hc] using ih
  | abandon c => simp [Cursor.abandon, Cursor.report, hc]

lemma tokens_eq_nil (h : Leads c ds d) (hc : c.abandoned = false) (hd : d.abandoned = true) :
    d.tokens = [] := by
  induction h with
  | refl c => simp [hc] at hd
  | advance _ _ ih => exact ih hc hd
  | @report c e d ds _ _ ih => exact ih (by simp [Cursor.report, hc]) hd
  | abandon c => rfl

lemma of_peek {k : TokenKind} (h : Leads c ds d) (hc : c.abandoned = false) (hk : k ≠ .eof)
    (hp : d.peek = k) : d.abandoned = false := by
  by_contra ha
  have hd := h.tokens_eq_nil hc (by simpa using ha)
  rw [peek, hd] at hp
  exact hk hp.symm

lemma report_end (h : Leads c ds d) {x : Diagnostic} (hx : x ≠ .nestedTooDeeply) :
    ∃ es, Leads c (ds ++ es) (d.report x) := by
  by_cases hd : d.abandoned = true
  · exact ⟨[], by simpa [Cursor.report, hd] using h⟩
  · exact ⟨[x], h.trans (by simpa using hd) (.report hx (.refl _))⟩

end Leads

end Verdict.Cursor
