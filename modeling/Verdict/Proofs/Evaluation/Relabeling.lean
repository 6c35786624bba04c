import Verdict.Proofs.Evaluation.Nodes
import Verdict.Proofs.Shape

namespace Verdict

variable [PatternEngine]

def Registry.IgnoresSpans (registry : Registry) : Prop :=
  ∀ name native, registry.get? name = some native →
    ∀ as bs : List Expr, Expr.spanlessAll as = Expr.spanlessAll bs → native as = native bs

namespace Expr

variable {env : Environment} {registry : Registry} (span : Span → Span) {word : String → String}

lemma evalCall_relabel (f : Expr) {args : List Expr}
    (h : ∀ native, registry.get? f.print = some native → native (relabelAll span word args) = native args) :
    evalCall registry (f.relabel span word) (relabelAll span word args) = evalCall registry f args := by
  rw [evalCall, evalCall, print_relabel]
  cases hf : registry.get? f.print with
  | none => rfl
  | some native =>
    dsimp only
    rw [h native hf]

lemma eval_relabel : ∀ e : Expr,
    (∀ f args s, call f args s ∈ e.evaluated → ∀ native, registry.get? f.print = some native →
      native (relabelAll span word args) = native args) →
    (e.relabel span word).eval env registry = e.eval env registry
  | identifier .., _ | listRef .., _ | pattern .., _ | text .., _ | number .., _ | boolean .., _ => rfl
  | negate e _, h => by
    have he := eval_relabel e fun f args s hd => h f args s (.tail _ hd)
    rw [relabel, eval, eval, he]
  | binary _ l r _, h => by
    have hleft := eval_relabel l fun f args s hd => h f args s (.tail _ (List.mem_append_left _ hd))
    have hright := eval_relabel r fun f args s hd => h f args s (.tail _ (List.mem_append_right _ hd))
    rw [relabel, eval, eval, hleft, hright]
  | call f args s, h => by
    rw [relabel, eval, eval, evalCall_relabel span f (h f args s (.head _))]

lemma eval_relabel_id (hr : registry.IgnoresSpans) (e : Expr) :
    (e.relabel span id).eval env registry = e.eval env registry :=
  eval_relabel span e fun _ args _ _ native hf => hr _ native hf _ _ (relabelAll_relabelAll _ _ _ _ args)

end Expr

end Verdict
