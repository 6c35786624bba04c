import Verdict.Proofs.Refusal
import Verdict.Proofs.Scan.Lossless

namespace Verdict

open Token (isBlank)

namespace Pass

variable {p : Pass} {e : Expr}

lemma Valid.isSome_iff (h : p.Valid) : p.statement.expr.isSome ↔ p.complaints = [] := by
  cases h with
  | clean => simp
  | faulty hds => simp [hds]

lemma Valid.spells (h : p.Valid) (he : p.statement.expr = some e) : ∃ d, e.Spells d Power.lowest p.tokens := by
  cases h with
  | @clean d _ _ _ _ hs =>
    obtain rfl := Option.some.inj he
    exact ⟨d, hs⟩
  | faulty => simp at he

lemma ofTokens_eq_nil_iff (tokens : List Token) : ofTokens tokens = [] ↔
    ((ofTokens tokens).getLast?.bind fun p => p.statement.expr) = none ∧ (ofTokens tokens).flatMap complaints = [] := by
  constructor
  · intro h
    simp [h]
  · rintro ⟨he, hc⟩
    cases hp : (ofTokens tokens).getLast? with
    | none => exact List.getLast?_eq_none_iff.1 hp
    | some p =>
      have hm := List.mem_of_getLast? hp
      have hs := (valid_ofTokens hm).isSome_iff.2 (List.flatMap_eq_nil_iff.1 hc p hm)
      rw [hp, Option.bind_some] at he
      simp [he] at hs

end Pass

lemma tokenize_eq_nil_iff (source : String) :
    tokenize source = [] ↔ ∀ c ∈ source.toList, c ∈ [' ', '\t', '\r', '\n'] := by
  have hb : ∀ c, isBlank c = true ↔ c ∈ [' ', '\t', '\r', '\n'] := by
    intro c
    simp [isBlank, or_assoc]
  rw [tokenize, Scanner.tokens_eq_nil_iff]
  exact forall₂_congr fun c _ => hb c

namespace Rule

theorem read_iff_silent (source : String) :
    ((Pass.ofTokens (tokenize source)).flatMap Pass.tokens = tokenize source ∧
      (Pass.ofTokens (tokenize source)).flatMap Pass.complaints = (compile source).2 ∧
      (compile source).1.expr = (Pass.ofTokens (tokenize source)).getLast?.bind fun p => p.statement.expr) ∧
    (∀ p ∈ Pass.ofTokens (tokenize source), (p.statement.expr.isSome ↔ p.complaints = []) ∧
      ∀ e, p.statement.expr = some e → ∃ d, e.Spells d Power.lowest p.tokens) ∧
    ((compile source).1.expr = none ∧ (compile source).2 = [] ↔
      ∀ c ∈ source.toList, c ∈ [' ', '\t', '\r', '\n']) := by
  have ht : (Pass.ofTokens (tokenize source)).flatMap Pass.tokens = tokenize source := Pass.flatMap_tokens_ofTokens
  refine ⟨⟨ht, (compile_diagnostics source).symm, compile_expr source⟩, ?_, ?_⟩
  · intro p hp
    have hv := Pass.valid_ofTokens hp
    exact ⟨hv.isSome_iff, fun e he => hv.spells he⟩
  · rw [compile_expr, compile_diagnostics, ← Pass.ofTokens_eq_nil_iff, ← tokenize_eq_nil_iff]
    constructor
    · intro h
      rw [← ht, h, List.flatMap_nil]
    · intro h
      rw [h]
      rfl

end Rule

end Verdict
