import Verdict.Engine
import Verdict.Proofs.CanonicalText
import Verdict.Proofs.Evaluation.Relabeling

/-! The functions of a registry see how the Booleans among their arguments are spelled, and the canonical text spells
them all in lower case. -/

namespace Verdict

namespace Expr

variable {e : Expr} (span : Span → Span) {word : String → String}

lemma literal_relabel (h : ∀ literal value s, e = boolean literal value s → word literal = literal) :
    (e.relabel span word).literal = e.literal := by
  cases e with
  | boolean literal value s => exact h literal value s rfl
  | _ => rfl

lemma map_literal_relabelAll : ∀ es : List Expr,
    (∀ literal value s, boolean literal value s ∈ es → word literal = literal) →
      (relabelAll span word es).map literal = es.map literal
  | [], _ => rfl
  | e :: es, h => by
    have he : (e.relabel span word).literal = e.literal :=
      literal_relabel span fun literal value s hb => h literal value s (hb ▸ .head _)
    have hs := map_literal_relabelAll es fun literal value s hb => h literal value s (.tail _ hb)
    rw [relabelAll, List.map_cons, List.map_cons, he, hs]

lemma map_literal_spanlessAll (es : List Expr) : (spanlessAll es).map literal = es.map literal :=
  map_literal_relabelAll _ es fun _ _ _ _ => rfl

end Expr

section

variable [PatternEngine]

def Registry.ReadsLiterals (registry : Registry) : Prop :=
  ∀ name native, registry.get? name = some native →
    ∀ as bs : List Expr, as.map Expr.literal = bs.map Expr.literal → native as = native bs

lemma Registry.standard_readsLiterals : Registry.standard.ReadsLiterals := by
  intro name native h as bs hl
  rw [standard, builtins, List.foldl_cons, List.foldl_nil, get?_insert] at h
  split at h
  · obtain rfl := Option.some.inj h
    rw [Native.list, Native.list, hl]
  · simp at h

variable {env : Environment} {registry : Registry} {e e' : Expr} {b : Bindings} {source : String}

namespace Expr

/-- Every Boolean among the arguments of an evaluated call of a known function is spelled in lower case. -/
def LowerArguments (registry : Registry) (e : Expr) : Prop :=
  ∀ f args s, call f args s ∈ e.evaluated → registry.contains f.print = true →
    ∀ literal value s', boolean literal value s' ∈ args → Text.lower literal = literal

section relabel

variable (span : Span → Span) {word : String → String}

lemma eval_relabel_of_literals (hr : registry.ReadsLiterals) (e : Expr)
    (h : ∀ f args s, call f args s ∈ e.evaluated → registry.contains f.print = true →
      (relabelAll span word args).map literal = args.map literal) :
    (e.relabel span word).eval env registry = e.eval env registry := by
  refine eval_relabel span e fun f args s hd native hf => ?_
  have hk : registry.contains f.print = true := by
    rw [Registry.contains, hf]
    rfl
  exact hr _ native hf _ _ (h f args s hd hk)

end relabel

end Expr

lemma Registry.ReadsLiterals.ignoresSpans (hr : registry.ReadsLiterals) : registry.IgnoresSpans := by
  intro name native hf as bs h
  apply hr name native hf
  rw [← Expr.map_literal_spanlessAll as, h, Expr.map_literal_spanlessAll]

namespace Expr

lemma eval_shape (hr : registry.ReadsLiterals) (h : e.LowerArguments registry) :
    e.shape.eval env registry = e.eval env registry :=
  eval_relabel_of_literals _ hr e fun f args s hd hk => map_literal_relabelAll _ args (h f args s hd hk)

lemma eval_eq_of_spanless (hr : registry.ReadsLiterals) (h : e.LowerArguments registry) (he : e'.spanless = e.shape) :
    e'.eval env registry = e.eval env registry :=
  calc e'.eval env registry
    _ = e'.spanless.eval env registry := (eval_relabel_id _ hr.ignoresSpans e').symm
    _ = e.shape.eval env registry := by rw [he]
    _ = e.eval env registry := eval_shape hr h

end Expr

namespace Rule

lemma value_eq_eval {r : Rule} (h : r.expr = some e) : r.value b registry = e.eval (.ofBindings b) registry := by
  rw [value, evalIn, h]

lemma evaluate_eq_of_value {r r' : Rule} (h : r'.value b .standard = r.value b .standard) :
    r'.evaluate b = r.evaluate b :=
  congrArg Value.verdict h

theorem evaluate_print_of_lowerArguments (h : (compile source).2 = [])
    (hp : (compile (compile source).1.print).2 = [])
    (hl : ∀ e, (compile source).1.expr = some e → e.LowerArguments .standard) (b : Bindings) :
    (compile (compile source).1.print).1.value b .standard = (compile source).1.value b .standard ∧
      (compile (compile source).1.print).1.evaluate b = (compile source).1.evaluate b := by
  have hv : (compile (compile source).1.print).1.value b .standard = (compile source).1.value b .standard := by
    rcases Option.eq_none_or_eq_some (compile source).1.expr with he | ⟨e, he⟩
    · rw [print_eq, he, Option.elim_none, value, value, evalIn, evalIn, compile_empty.2, he]
    · obtain ⟨hx, hh⟩ := lexable_of_clean h he
      have hc := compile_print_spanless hx hh
      rw [print_eq, he, Option.elim_some] at hp ⊢
      split at hc
      · obtain ⟨-, e', he', hs⟩ := hc
        rw [value_eq_eval he, value_eq_eval he']
        exact Expr.eval_eq_of_spanless Registry.standard_readsLiterals (hl e he) hs
      · rw [hc] at hp
        simp at hp
  exact ⟨hv, evaluate_eq_of_value hv⟩

end Rule

end

namespace Rule

theorem evaluate_print_of_list_argument :
    (compile "\"true\" contains list(true)").2 = [] ∧
      (compile (compile "\"true\" contains list(true)").1.print).2 = [] ∧
      (compile (compile "\"true\" contains list(true)").1.print).1.value .empty .standard =
        (compile "\"true\" contains list(true)").1.value .empty .standard ∧
      (compile "\"true\" contains list(true)").1.evaluate .empty = true ∧
      (compile (compile "\"true\" contains list(true)").1.print).1.evaluate .empty = true := by
  have h : (compile "\"true\" contains list(true)").2 = [] := by decide +kernel
  have hp : (compile (compile "\"true\" contains list(true)").1.print).2 = [] := by decide +kernel
  have ht : (compile "\"true\" contains list(true)").1.expr = some (.binary .contains (.text "true" ⟨0, 6⟩)
      (.call (.identifier "list" ⟨16, 20⟩) [.boolean "true" true ⟨21, 25⟩] ⟨16, 26⟩) ⟨0, 26⟩) := by
    decide +kernel
  have htrue : (compile "\"true\" contains list(true)").1.evaluate .empty = true := by decide +kernel
  have hl : ∀ e, (compile "\"true\" contains list(true)").1.expr = some e → e.LowerArguments .standard := by
    intro e he f args s hm _ literal value s' hb
    obtain rfl := Option.some.inj (ht.symm.trans he)
    obtain ⟨rfl, rfl, rfl⟩ : f = .identifier "list" ⟨16, 20⟩ ∧ args = [.boolean "true" true ⟨21, 25⟩] ∧
        s = ⟨16, 26⟩ := by
      simpa [Expr.evaluated] using hm
    obtain ⟨rfl, -, -⟩ : literal = "true" ∧ value = true ∧ s' = ⟨21, 25⟩ := by
      simpa using hb
    decide +kernel
  obtain ⟨hv, he⟩ := evaluate_print_of_lowerArguments h hp hl .empty
  exact ⟨h, hp, hv, htrue, he.trans htrue⟩

theorem evaluate_print_differs_for_capitals :
    (compile "\"TRUE\" contains list(TRUE)").2 = [] ∧
      (compile (compile "\"TRUE\" contains list(TRUE)").1.print).2 = [] ∧
      (compile "\"TRUE\" contains list(TRUE)").1.evaluate .empty = true ∧
      (compile (compile "\"TRUE\" contains list(TRUE)").1.print).1.evaluate .empty = false := by
  decide +kernel

end Rule

end Verdict
