import Verdict.Engine
import Verdict.Proofs.Evaluation.Nodes

namespace Verdict

section

variable [PatternEngine] {env env' : Environment} {registry registry' : Registry} {b b' : Bindings}

namespace Expr

lemma evalCall_congr {f : Expr} (args : List Expr) (h : registry.get? f.print = registry'.get? f.print) :
    evalCall registry f args = evalCall registry' f args := by
  rw [evalCall, evalCall, h]

lemma eval_congr : ∀ e : Expr,
    (∀ d ∈ e.evaluated, ∀ name, d.lookedUp? = some name → env.lookup name = env'.lookup name) →
    (∀ d ∈ e.evaluated, ∀ site, d.callSite? = some site → registry.get? site.name = registry'.get? site.name) →
    e.eval env registry = e.eval env' registry'
  | identifier name _, hn, _ | listRef name _, hn, _ => by
    rw [eval, eval, hn _ (.head _) name rfl]
  | pattern .., _, _ | text .., _, _ | number .., _, _ | boolean .., _, _ => rfl
  | negate e _, hn, hc => by
    have he := eval_congr e (fun d hd => hn d (.tail _ hd)) (fun d hd => hc d (.tail _ hd))
    rw [eval, eval, he]
  | binary _ l r _, hn, hc => by
    have hl := eval_congr l (fun d hd => hn d (.tail _ (List.mem_append_left _ hd)))
      (fun d hd => hc d (.tail _ (List.mem_append_left _ hd)))
    have hr := eval_congr r (fun d hd => hn d (.tail _ (List.mem_append_right _ hd)))
      (fun d hd => hc d (.tail _ (List.mem_append_right _ hd)))
    rw [eval, eval, hl, hr]
  | call f args s, _, hc => by
    have hf : registry.get? f.print = registry'.get? f.print :=
      hc (call f args s) (.head _) ⟨f.print, args.map print⟩ rfl
    rw [eval, eval, evalCall_congr args hf]

end Expr

namespace Rule

lemma value_congr {r : Rule} (hb : ∀ name ∈ r.inventory.required, b.get? name = b'.get? name)
    (hr : ∀ site ∈ r.inventory.calls, registry.get? site.name = registry'.get? site.name) :
    r.value b registry = r.value b' registry' := by
  cases he : r.expr with
  | none => simp [value, evalIn, he]
  | some e =>
    simp only [value, evalIn, he]
    apply Expr.eval_congr
    · intro d hd name hl
      have hn := hb name (r.mem_required.2 ⟨e, he, d, hd, hl⟩)
      simp only [Environment.lookup_ofBindings, hn]
    · intro d hd site hs
      exact hr site (r.mem_calls.2 ⟨e, he, d, hd, hs⟩)

theorem value_eq_of_agreement (r : Rule) :
    (∀ b b' registry registry', (∀ name ∈ r.inventory.required, b.get? name = b'.get? name) →
      (∀ site ∈ r.inventory.calls, registry.get? site.name = registry'.get? site.name) →
      r.value b registry = r.value b' registry') ∧
    (∀ name, (∀ e, r.expr = some e → ∀ d ∈ e.evaluated, d.lookedUp? ≠ some name) →
      ∀ b host registry, r.value (b.insert name host) registry = r.value b registry) := by
  refine ⟨fun _ _ _ _ hb hr => value_congr hb hr, ?_⟩
  intro name hn b host registry
  apply value_congr
  · intro other ho
    have hne : name ≠ other := by
      rintro rfl
      obtain ⟨e, he, d, hd, hl⟩ := r.mem_required.1 ho
      exact hn e he d hd hl
    rw [Bindings.get?_insert, if_neg hne]
  · intro site _
    rfl

end Rule

end

namespace Rule

theorem value_eq_of_unread_argument :
    (compile "x contains list(y)").1.inventory.required = ["x"] ∧
      (compile "x contains list(y)").1.inventory.calls = [⟨"list", ["y"]⟩] ∧
      (compile "x contains list(y)").1.value (.ofList [("x", .text "by")]) .standard =
        (compile "x contains list(y)").1.value (.ofList [("x", .text "by"), ("y", .int 1)])
          (Registry.standard.insert "always" fun _ => .ok (.boolean true)) := by
  have hn : (compile "x contains list(y)").1.inventory.required = ["x"] := by decide +kernel
  have hc : (compile "x contains list(y)").1.inventory.calls = [⟨"list", ["y"]⟩] := by decide +kernel
  have hl : Text.lower "always" ≠ Text.lower "list" := by decide +kernel
  refine ⟨hn, hc, (value_eq_of_agreement _).1 _ _ _ _ ?_ ?_⟩
  · rw [hn]
    simp [Bindings.ofList, Bindings.get?_insert]
  · rw [hc]
    simp [Registry.get?_insert, hl]

end Rule

end Verdict
