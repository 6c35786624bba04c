import Mathlib.Data.List.Basic
import Verdict.Engine
import Verdict.Proofs.Pass
import Verdict.Rule

namespace Verdict

variable {source : String}

lemma Value.verdict_eq_false_iff [PatternEngine] (v : Value) : v.verdict = false ↔ v ≠ .boolean true := by
  rw [← Bool.not_eq_true, verdict_eq_true_iff]

namespace Rule

lemma compile_diagnostics (source : String) :
    (compile source).2 = (Pass.ofTokens (tokenize source)).flatMap Pass.complaints := by
  simp [compile, Pass.diagnostics_eq]

lemma compile_expr (source : String) :
    (compile source).1.expr = (Pass.ofTokens (tokenize source)).getLast?.bind fun p => p.statement.expr := by
  simp only [compile, expr, Pass.statement_eq]
  cases (Pass.ofTokens (tokenize source)).getLast? <;> rfl

lemma exists_spelled {e : Expr} (h : (compile source).1.expr = some e) :
    e.height ≤ maxNesting ∧ ∃ d < maxNesting, ∃ ts, e.Spells d Power.lowest ts ∧ ts <:+: tokenize source := by
  rw [compile_expr, Option.bind_eq_some_iff] at h
  obtain ⟨p, hp, he⟩ := h
  have hmem := List.mem_of_getLast? hp
  cases Pass.valid_ofTokens hmem with
  | @clean d _ ts hd hh hs =>
    obtain rfl := Option.some.inj he
    have hm := List.infix_of_mem_flatten (List.mem_map_of_mem (f := Pass.tokens) hmem)
    rw [← List.flatMap_def, Pass.flatMap_tokens_ofTokens] at hm
    exact ⟨hh, d, hd, ts, hs, hm⟩
  | faulty => simp at he

section

variable [PatternEngine]

lemma evaluateWith_eq_false_iff (r : Rule) (b : Bindings) (registry : Registry) :
    r.evaluateWith b registry = false ↔
      ∀ e, r.expr = some e → e.eval (.ofBindings b) registry ≠ .boolean true := by
  rw [evaluateWith, value, evalIn]
  cases r.expr with
  | none => simp [Value.verdict, Value.toBool?]
  | some e => simp [Value.verdict_eq_false_iff]

theorem refuses_iff_of_diagnostics (h : (compile source).2 ≠ []) (b : Bindings) (registry : Registry) :
    (compile source).1.evaluateWith b registry = false ↔
      ∃ p, (Pass.ofTokens (tokenize source)).getLast? = some p ∧
        (p.complaints ≠ [] ∨ ∃ d e, e.Spells d Power.lowest p.tokens ∧ p.statement.expr = some e ∧
          e.eval (.ofBindings b) registry ≠ .boolean true) := by
  rw [evaluateWith_eq_false_iff, compile_expr]
  cases hp : (Pass.ofTokens (tokenize source)).getLast? with
  | none =>
    rw [compile_diagnostics, List.getLast?_eq_none_iff.1 hp] at h
    exact absurd rfl h
  | some p =>
    have hv := Pass.valid_ofTokens (List.mem_of_getLast? hp)
    cases hv with
    | clean hd hh hs =>
      constructor
      · intro he
        exact ⟨_, rfl, .inr ⟨_, _, hs, rfl, he _ rfl⟩⟩
      · rintro ⟨q, hq, hc⟩ e' he'
        obtain rfl := Option.some.inj hq
        obtain rfl := Option.some.inj he'
        rcases hc with hc | ⟨d, e, -, he, hne⟩
        · exact absurd rfl hc
        · obtain rfl := Option.some.inj he
          exact hne
    | faulty hds => simp [hds]

end

theorem refuses_after_stray_parenthesis :
    (compile ") false").2 ≠ [] ∧ (compile ") false").1.evaluateWith .empty .standard = false ∧
      ∃ p, (Pass.ofTokens (tokenize ") false")).getLast? = some p ∧ p.complaints = [] ∧
        ∃ d e, e.Spells d Power.lowest p.tokens ∧ p.statement.expr = some e ∧
          e.eval (.ofBindings .empty) .standard ≠ .boolean true := by
  have h : (compile ") false").2 ≠ [] := by decide +kernel
  have hlast : (Pass.ofTokens (tokenize ") false")).getLast?.map (fun p => (p.complaints, p.tokens, p.statement.expr)) =
      some ([], [⟨.boolean false, "false", ⟨2, 7⟩⟩], some (.boolean "false" false ⟨2, 7⟩)) := by
    decide +kernel
  obtain ⟨p, hp, hparts⟩ := Option.map_eq_some_iff.1 hlast
  obtain ⟨hcomplaints, htokens, hexpr⟩ := by simpa using hparts
  have hs : Expr.Spells 0 Power.lowest (.boolean "false" false ⟨2, 7⟩) p.tokens := by
    rw [htokens]
    exact .leaf rfl
  have he : (Expr.boolean "false" false ⟨2, 7⟩).eval (.ofBindings .empty) .standard ≠ .boolean true := by
    simp [Expr.eval]
  exact ⟨h, (refuses_iff_of_diagnostics h _ _).2 ⟨p, hp, .inr ⟨0, _, hs, hexpr, he⟩⟩, p, hp, hcomplaints, 0, _, hs,
    hexpr, he⟩

theorem permits_after_stray_parenthesis :
    (compile ") true").2 ≠ [] ∧ (compile ") true").1.evaluate .empty = true := by
  decide +kernel

end Rule

end Verdict
