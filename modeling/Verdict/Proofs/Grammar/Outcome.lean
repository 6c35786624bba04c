import Verdict.Proofs.Cursor
import Verdict.Proofs.Grammar.Spelling

/-! A reader that keeps its promise for expressions keeps it for the operands built from them. -/

namespace Verdict.Expr

/-- Either `a` was read from the next tokens, and the cursor stands on the last of them, or the reading led
to some complaints. -/
inductive Outcome {α : Type} (c : Cursor) (good : α → List Token → List Token → Prop) : Reading α → Prop
  | done {a : α} {ts rest : List Token} : c.tokens = ts ++ rest → ts ≠ [] → good a ts rest →
      Outcome c good (some a, c.skip (ts.length - 1))
  | failed {ds : List Diagnostic} {d : Cursor} : ds ≠ [] → c.Leads ds d → Outcome c good (none, d)

/-- A tree that operators of any power above `power` may still follow. -/
structure Climbed (room power : Nat) (m : Measured) (ts rest : List Token) : Prop where
  height_eq : m.2 = m.1.height
  height_le : m.2 ≤ maxNesting
  spells : ∃ d ≤ room, Spells d (max (min (power + 1) Power.negation) (Cursor.kindOf rest).power) m.1 ts

/-- A tree that no operator of a power above `power` follows. -/
structure Complete (room power : Nat) (m : Measured) (ts rest : List Token) : Prop where
  height_eq : m.2 = m.1.height
  height_le : m.2 ≤ maxNesting
  spells : ∃ d < room, Spells d (min (power + 1) Power.negation) m.1 ts
  stops : (Cursor.kindOf rest).power ≤ power

def Sound (room : Nat) (read : Reader) : Prop :=
  ∀ power c, power ≤ Power.negation → c.abandoned = false →
    Outcome c (Complete room power) (read power c)

variable {α β : Type} {good : α → List Token → List Token → Prop} {c d : Cursor} {read : Reader}
  {room power : Nat} {r : Reading Measured} {e : Expr} {ts rest : List Token} {t : Token}

lemma Outcome.imp {good' : α → List Token → List Token → Prop} {r : Reading α} (h : Outcome c good r)
    (hg : ∀ a ts rest, ts ≠ [] → good a ts rest → good' a ts rest) : Outcome c good' r := by
  cases h with
  | done hc hn ha => exact .done hc hn (hg _ _ _ hn ha)
  | failed hds hl => exact .failed hds hl

lemma Outcome.leads {r : Reading α} (h : Outcome c good r) : ∃ ds, c.Leads ds r.2 := by
  cases h with
  | @done a ts rest hc hn _ =>
    have hl : ts.length - 1 ≤ c.tokens.length := by
      simp [hc]
      omega
    exact ⟨[], Cursor.Leads.skip hl (.refl _)⟩
  | failed _ hl => exact ⟨_, hl⟩

lemma Spells.current_ne_eof {n p : Nat} (h : Spells n p e ts) (hc : c.tokens = ts ++ rest) :
    (c.skip (ts.length - 1)).current ≠ .eof := by
  obtain ⟨us, t, rfl⟩ := List.eq_nil_or_concat ts |>.resolve_left h.ne_nil
  have ht := h.not_stray t (by simp)
  simpa [hc, Cursor.kindOf] using fun he => ht (.inl he)

lemma Climbed.pos {m : Measured} (h : Climbed room power m ts rest) : 0 < ts.length := by
  obtain ⟨d, -, hs⟩ := h.spells
  exact hs.length_pos

lemma Climbed.spells_left {m : Measured} (h : Climbed room power m ts (t :: rest)) :
    ∃ d ≤ room, Spells d t.kind.power m.1 ts := by
  obtain ⟨d, hd, hs⟩ := h.spells
  exact ⟨d, hd, hs.mono (Nat.le_max_right _ _)⟩

lemma nest_outcome {n : Nat} (hc : c.tokens = ts ++ rest) (hn : n = e.height)
    (hs : ∃ d ≤ room, Spells d (max (min (power + 1) Power.negation) (Cursor.kindOf rest).power) e ts) :
    Outcome c (fun m us vs => us = ts ∧ Climbed room power m us vs) (nest e n (c.skip (ts.length - 1))) := by
  rw [nest]
  split
  · refine .failed (by simp) (Cursor.Leads.skip (n := ts.length - 1) ?_ (.abandon _))
    simp [hc]
    omega
  · obtain ⟨d, hd, hs⟩ := hs
    exact .done hc hs.ne_nil ⟨rfl, hn, by omega, d, hd, hs⟩

lemma report_outcome {x : Diagnostic} (hx : x ≠ .nestedTooDeeply) :
    Outcome c good (none, c.report x) :=
  .failed (by simp) (.report hx (.refl _))

lemma leaf_outcome (hc : c.tokens = t :: rest) (hl : t.leaf? = some e) :
    Outcome c (Climbed room power) (some (e, 1), c) := by
  have hh := height_of_leaf hl
  have hc' : c.tokens = [t] ++ rest := hc
  exact .done hc' (by simp) ⟨hh.symm, by simp [maxNesting], 0, Nat.zero_le _, .leaf hl⟩

lemma Outcome.after {r : Reading α} {ls : List Token} (hc : c.tokens = ls ++ rest)
    (h : Outcome (c.skip ls.length) good r) :
    Outcome c (fun a us rest => ∃ ts, us = ls ++ ts ∧ good a ts rest) r := by
  have hl : ls.length ≤ c.tokens.length := by simp [hc]
  cases h with
  | failed hds h => exact .failed hds (h.skip hl)
  | @done a ts rest' hts hn hg =>
    have hp := List.length_pos_iff.2 hn
    have hs : rest = ts ++ rest' := by simpa [hc] using hts
    have hm : ls.length + (ts.length - 1) = (ls ++ ts).length - 1 := by
      simp only [List.length_append]
      omega
    rw [Cursor.skip_skip, hm]
    exact .done (by simp [hc, hs]) (by simp [hn]) ⟨ts, rfl, hg⟩

lemma Outcome.after_one {r : Reading α} (hc : c.tokens = t :: rest) (h : Outcome c.advance good r) :
    Outcome c (fun a us rest => ∃ ts, us = t :: ts ∧ good a ts rest) r := by
  rw [Cursor.advance_eq_skip] at h
  have hc' : c.tokens = [t] ++ rest := hc
  exact Outcome.after hc' h

def follow {σ : Type} (r : Option α × σ) (f : α → σ → Option β × σ) : Option β × σ :=
  match r with
  | (none, c) => (none, c)
  | (some a, c) => f a c

lemma follow_outcome {good' : β → List Token → List Token → Prop} {r : Reading α} {f : α → Cursor → Reading β}
    (h : Outcome c good r)
    (hf : ∀ a ts rest, c.tokens = ts ++ rest → good a ts rest → Outcome c good' (f a (c.skip (ts.length - 1)))) :
    Outcome c good' (follow r f) := by
  cases h with
  | failed hds hl => exact .failed hds hl
  | done hc _ ha => exact hf _ _ _ hc ha

lemma negation_eq (start : Span) : negation read start c =
    follow (read Power.negation c.advance) fun m c => nest (negate m.1 (start.union m.1.span)) (m.2 + 1) c := by
  rw [negation]
  rcases read Power.negation c.advance with ⟨_ | m, d⟩ <;> rfl

lemma application_eq (m : Measured) : application read m c =
    follow (arguments read c) fun a c =>
      nest (call m.1 a.1 (m.1.span.union (currentSpan c m.1.span))) (max m.2 a.2 + 1) c := by
  rw [application]
  rcases arguments read c with ⟨_ | a, d⟩ <;> rfl

lemma operation_op_eq {o : Operator} (h : c.current = .op o) (m : Measured) : operation read m c =
    follow (read o.power c.advance) fun r c =>
      nest (binary o m.1 r.1 (m.1.span.union r.1.span)) (max m.2 r.2 + 1) c := by
  rw [operation, h]
  dsimp only
  rcases read o.power c.advance with ⟨_ | r, d⟩ <;> rfl

lemma operations_stop {fuel : Nat} {m : Measured} (h : c.peek.power ≤ power) :
    operations read power fuel m c = (some m, c) := by
  cases fuel with
  | zero => rfl
  | succ fuel => exact if_neg fun hp => Nat.not_lt.2 h hp.1

lemma operations_step {fuel : Nat} {m : Measured} (h : power < c.peek.power) (hc : c.current ≠ .eof) :
    operations read power (fuel + 1) m c = follow (operation read m c.advance) (operations read power fuel) := by
  rw [operations, if_pos ⟨h, hc⟩]
  rcases operation read m c.advance with ⟨_ | a, d⟩ <;> rfl

lemma read_succ (room power : Nat) (c : Cursor) : Expr.read (room + 1) power c =
    follow (operand (Expr.read room) c) fun m d => operations (Expr.read room) power d.tokens.length m d := by
  rw [Expr.read]
  rcases operand (Expr.read room) c with ⟨_ | m, d⟩ <;> rfl

def closed (r : Reading α) : Reading α :=
  match r.2.expect .rparen with
  | (true, c) => (r.1, c)
  | (false, c) => (none, c)

lemma closed_outcome {r : Reading α} (hc : c.abandoned = false) (h : Outcome c good r) :
    Outcome c (fun a us rest => ∃ ts x, us = ts ++ [x] ∧ x.kind = .rparen ∧ good a ts (x :: rest))
      (closed r) := by
  cases h with
  | @failed ds d hds hl =>
    by_cases hp : d.peek = .rparen
    · simp only [closed, Cursor.expect, hp, if_true]
      have hn := Cursor.tokens_ne_nil_of_peek (c := d) (by simp [hp])
      have hl' := hl.trans (hl.of_peek hc (by decide) hp) (.advance hn (.refl _))
      exact .failed (by simpa using hds) hl'
    · simp only [closed, Cursor.expect, hp, if_false]
      obtain ⟨es, hl'⟩ := hl.report_end (x := .expected .rparen d.peek) (by simp)
      exact .failed (by simp [hds]) hl'
  | @done a ts rest hts hn hg =>
    have hp := List.length_pos_iff.2 hn
    have hk : (c.skip (ts.length - 1)).peek = Cursor.kindOf rest := by
      simp [hts, Nat.sub_add_cancel hp]
    by_cases hr : Cursor.kindOf rest = .rparen
    · cases rest with
      | nil => simp [Cursor.kindOf] at hr
      | cons x rest =>
        simp only [closed, Cursor.expect, hk, hr, if_true]
        have hm : ts.length - 1 + 1 = (ts ++ [x]).length - 1 := by
          simp
          omega
        rw [Cursor.advance_eq_skip, Cursor.skip_skip, hm]
        exact .done (by simp [hts]) (by simp) ⟨ts, x, rfl, hr, hg⟩
    · simp only [closed, Cursor.expect, hk, hr, if_false]
      have hl : ts.length - 1 ≤ c.tokens.length := by
        simp [hts]
        omega
      exact .failed (by simp) (Cursor.Leads.skip hl (.report (by simp) (.refl _)))

lemma negation_outcome (hr : Sound room read) (ha : c.abandoned = false) (hc : c.tokens = t :: rest)
    (ht : t.kind = .op .sub) : Outcome c (Climbed room power) (negation read t.span c) := by
  rw [negation_eq]
  refine follow_outcome ((hr Power.negation c.advance Nat.le.refl ha).after_one hc) ?_
  rintro m us rest hus ⟨ts, rfl, hh, -, ⟨d, hd, hs⟩, hstop⟩
  have hp := Nat.max_le.2 ⟨Nat.min_le_right (power + 1) _, hstop⟩
  exact (nest_outcome hus (by simpa [height] using hh) ⟨d + 1, hd, .negate hp ht hs⟩).imp fun _ _ _ _ h => h.2

lemma group_outcome (hr : Sound room read) (ha : c.abandoned = false) (hc : c.tokens = t :: rest)
    (ht : t.kind = .lparen) : Outcome c (Climbed room power) (group read c) := by
  have h := (closed_outcome (c := c.advance) ha (hr Power.lowest _ (by decide) ha)).after_one hc
  refine h.imp ?_
  rintro m - rest - ⟨-, rfl, ts, x, rfl, hx, hm⟩
  obtain ⟨d, hd, hs⟩ := hm.spells
  exact ⟨hm.height_eq, hm.height_le, d + 1, hd, .group ht (hs.mono (Nat.zero_le _)) hx⟩

lemma numeral_outcome (hc : c.tokens = t :: rest) (ht : t.kind = .number) :
    Outcome c (Climbed room power) (numeral t c) := by
  rw [numeral]
  split
  · rename_i hd
    exact leaf_outcome hc (by simp [Token.leaf?, ht, hd])
  · exact report_outcome (by simp)

lemma operand_outcome (hr : Sound room read) (ha : c.abandoned = false) :
    Outcome c (Climbed room power) (operand read c) := by
  rw [operand]
  split
  · exact report_outcome (by simp)
  · rename_i t rest hc
    split
    · exact leaf_outcome hc (by simp [Token.leaf?, *])
    · exact leaf_outcome hc (by simp [Token.leaf?, *])
    · exact leaf_outcome hc (by simp [Token.leaf?, *])
    · exact leaf_outcome hc (by simp [Token.leaf?, *])
    · exact leaf_outcome hc (by simp [Token.leaf?, *])
    · exact numeral_outcome hc ‹_›
    · exact negation_outcome hr ha hc ‹_›
    · exact group_outcome hr ha hc ‹_›
    · exact report_outcome (by simp)

end Verdict.Expr
