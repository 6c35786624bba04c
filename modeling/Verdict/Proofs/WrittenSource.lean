import Verdict.Proofs.Grammar.Completeness
import Verdict.Proofs.Refusal
import Verdict.Proofs.Shape

namespace Verdict

/-- The tokens are those of the tree in order, with parentheses at least where the binding powers ask for them. -/
def Expr.WrittenAs (e : Expr) (ts : List Token) : Prop :=
  ∃ (d : Nat) (e' : Expr), e'.Spells d Power.lowest ts ∧ e'.shape = e.shape

variable {c : Cursor} {d : Nat} {e : Expr} {ts rest : List Token} {source : String}

namespace Statement

lemma ofTokens_cons (t : Token) (rest : List Token) :
    ofTokens (t :: rest) =
      last rest.length (next t (.ofTokens (t :: rest))).1 (next t (.ofTokens (t :: rest))).2.advance :=
  last_cons rfl empty

lemma next_of_spells (hs : e.Spells d Power.lowest ts) (hc : c.tokens = ts ++ rest)
    (hk : (Cursor.kindOf rest).power = Power.lowest) (t : Token) :
    next t c = if d < maxNesting ∧ e.height ≤ maxNesting then (⟨some e, e.span⟩, c.skip (ts.length - 1))
      else (⟨none, t.span⟩, c.abandon) := by
  have hclimb := hs.climbsTo hc hk.le (fun o _ => o.lowest_lt_power) (by decide)
  have hread := hclimb.readsAs hs.length_pos hc hk.le maxNesting
  rw [next]
  by_cases hd : d < maxNesting ∧ e.height ≤ maxNesting
  · rw [Expr.within, if_pos hd] at hread
    rw [if_pos hd, hread]
  · rw [Expr.within, if_neg hd] at hread
    rw [if_neg hd, hread]

lemma ofTokens_of_spells (h : e.Spells d Power.lowest ts) :
    if d < maxNesting ∧ e.height ≤ maxNesting then
      (ofTokens ts).1.expr = some e ∧ (ofTokens ts).2.diagnostics = []
    else (ofTokens ts).2.diagnostics = [.nestedTooDeeply] := by
  cases ts with
  | nil => exact absurd rfl h.ne_nil
  | cons t rest =>
    have hc : (Cursor.ofTokens (t :: rest)).tokens = (t :: rest) ++ [] := by simp [Cursor.ofTokens]
    have hrest : ((Cursor.ofTokens (t :: rest)).skip rest.length).advance.tokens = [] := by
      simp [Cursor.advance, Cursor.ofTokens]
    rw [ofTokens_cons, next_of_spells h hc rfl t]
    by_cases hd : d < maxNesting ∧ e.height ≤ maxNesting
    · rw [if_pos hd, if_pos hd, List.length_cons, Nat.add_sub_cancel, last_nil hrest]
      exact ⟨rfl, rfl⟩
    · rw [if_neg hd, if_neg hd, last_nil rfl]
      rfl

end Statement

namespace Rule

lemma compile_of_spells (h : e.Spells d Power.lowest (tokenize source)) :
    if d < maxNesting ∧ e.height ≤ maxNesting then (compile source).1.expr = some e ∧ (compile source).2 = []
    else (compile source).2 = [.nestedTooDeeply] :=
  Statement.ofTokens_of_spells h

theorem reads_written (h : e.WrittenAs (tokenize source)) :
    Power.Ascending Power.levels ∧ ((compile source).2 = [.nestedTooDeeply] ∨
      (compile source).2 = [] ∧ ∃ e', (compile source).1.expr = some e' ∧ e'.shape = e.shape) := by
  obtain ⟨d, e', hs, he⟩ := h
  have hr := compile_of_spells hs
  refine ⟨Power.ascending_levels, ?_⟩
  split at hr
  · exact .inr ⟨hr.2, e', hr.1, he⟩
  · exact .inl hr

theorem reads_written_difference : ∃ e : Expr, e.print = "((a - b) - true)" ∧
    e.WrittenAs (tokenize "a -b - (TRUE)") ∧ Power.Ascending Power.levels ∧
      (compile "a -b - (TRUE)").2 = [] ∧
      ∃ e', (compile "a -b - (TRUE)").1.expr = some e' ∧ e'.shape = e.shape := by
  have ha : Expr.Spells 0 Power.sum _ [⟨.ident, "a", ⟨0, 1⟩⟩] := .leaf rfl
  have hb : Expr.Spells 0 (Power.sum + 1) _ [⟨.ident, "b", ⟨3, 4⟩⟩] := .leaf rfl
  have ht : Expr.Spells 0 Power.lowest _ [⟨.boolean true, "TRUE", ⟨8, 12⟩⟩] := .leaf rfl
  have hl := Expr.Spells.binary (o := .sub) (t := ⟨.op .sub, "-", ⟨2, 3⟩⟩) Nat.le.refl ha rfl hb
  have hr := Expr.Spells.group (p := Power.sum + 1) (l := ⟨.lparen, "(", ⟨7, 8⟩⟩) (r := ⟨.rparen, ")", ⟨12, 13⟩⟩)
    rfl ht rfl
  have hs := Expr.Spells.binary (o := .sub) (t := ⟨.op .sub, "-", ⟨5, 6⟩⟩) (Nat.zero_le _) hl rfl hr
  have htokens : tokenize "a -b - (TRUE)" = [⟨.ident, "a", ⟨0, 1⟩⟩, ⟨.op .sub, "-", ⟨2, 3⟩⟩,
      ⟨.ident, "b", ⟨3, 4⟩⟩, ⟨.op .sub, "-", ⟨5, 6⟩⟩, ⟨.lparen, "(", ⟨7, 8⟩⟩,
      ⟨.boolean true, "TRUE", ⟨8, 12⟩⟩, ⟨.rparen, ")", ⟨12, 13⟩⟩] := by
    decide +kernel
  have hw : Expr.WrittenAs (.binary .sub (.binary .sub (.identifier "a" ⟨0, 0⟩) (.identifier "b" ⟨0, 0⟩) ⟨0, 0⟩)
      (.boolean "true" true ⟨0, 0⟩) ⟨0, 0⟩) (tokenize "a -b - (TRUE)") := by
    rw [htokens]
    exact ⟨_, _, hs, by decide +kernel⟩
  obtain ⟨hpowers, hn | hread⟩ := reads_written hw
  · have hc : (compile "a -b - (TRUE)").2 = [] := by decide +kernel
    simp [hc] at hn
  · exact ⟨_, by decide +kernel, hw, hpowers, hread⟩

end Rule

end Verdict
