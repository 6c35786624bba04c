import Verdict.Engine
import Verdict.Proofs.Evaluation.CanonicalMeaning
import Verdict.Proofs.Succession

namespace Verdict

def Token.written (t : Token) : TokenKind × String :=
  (t.kind, t.literal)

variable {source source' : String}

lemma map_moved_eq_of_written {ts us : List Token} (h : ts.map Token.written = us.map Token.written) (s : Span) :
    ts.map (Token.moved fun _ => s) = us.map (Token.moved fun _ => s) := by
  have hm : (Token.moved fun _ => s) = (fun w => ⟨w.1, w.2, s⟩) ∘ Token.written := rfl
  rw [hm, ← List.map_map, ← List.map_map, h]

namespace Statement

lemma ofTokens_of_written {ts us : List Token} (h : ts.map Token.written = us.map Token.written) :
    (ofTokens ts).1.expr.map Expr.spanless = (ofTokens us).1.expr.map Expr.spanless ∧
      (ofTokens ts).2.diagnostics = (ofTokens us).2.diagnostics := by
  obtain ⟨hexpr, hdiagnostics⟩ := ofTokens_moved (f := fun _ => ⟨0, 0⟩) (fun _ _ => rfl) ts
  obtain ⟨hexpr', hdiagnostics'⟩ := ofTokens_moved (f := fun _ => ⟨0, 0⟩) (fun _ _ => rfl) us
  rw [map_moved_eq_of_written h] at hexpr hdiagnostics
  exact ⟨hexpr.symm.trans hexpr', hdiagnostics.symm.trans hdiagnostics'⟩

end Statement

namespace Rule

lemma shape_eq_of_spanless {r r' : Rule} (h : r'.expr.map Expr.spanless = r.expr.map Expr.spanless) :
    r'.expr.map Expr.shape = r.expr.map Expr.shape := by
  have hm : Expr.shape = Expr.shape ∘ Expr.spanless := funext fun e => (Expr.shape_spanless e).symm
  rw [hm, ← Option.map_map, ← Option.map_map, h]

section

variable [PatternEngine] {registry : Registry} {b : Bindings}

lemma value_eq_of_spanless {r r' : Rule} (hr : registry.IgnoresSpans)
    (h : r'.expr.map Expr.spanless = r.expr.map Expr.spanless) : r'.value b registry = r.value b registry := by
  cases he : r.expr with
  | none =>
    rw [he, Option.map_none, Option.map_eq_none_iff] at h
    rw [value, value, evalIn, evalIn, he, h]
  | some e =>
    rw [he, Option.map_some, Option.map_eq_some_iff] at h
    obtain ⟨e', he', hs⟩ := h
    rw [value_eq_eval he, value_eq_eval he']
    calc e'.eval (.ofBindings b) registry
      _ = e'.spanless.eval (.ofBindings b) registry := (Expr.eval_relabel_id _ hr e').symm
      _ = e.spanless.eval (.ofBindings b) registry := by rw [hs]
      _ = e.eval (.ofBindings b) registry := Expr.eval_relabel_id _ hr e

theorem compile_eq_of_layout (h : (tokenize source').map Token.written = (tokenize source).map Token.written) :
    (compile source').2 = (compile source).2 ∧
      (compile source').1.expr.map Expr.spanless = (compile source).1.expr.map Expr.spanless ∧
      (compile source').1.print = (compile source).1.print ∧
      (compile source').1.inventory = (compile source).1.inventory ∧
      ∀ b, (compile source').1.value b .standard = (compile source).1.value b .standard ∧
        (compile source').1.evaluate b = (compile source).1.evaluate b := by
  obtain ⟨hexpr, hdiagnostics⟩ := Statement.ofTokens_of_written h
  have hs : (compile source').1.expr.map Expr.spanless = (compile source).1.expr.map Expr.spanless := hexpr
  obtain ⟨hprint, hinventory⟩ := print_inventory_eq_of_shape (shape_eq_of_spanless hs)
  refine ⟨hdiagnostics, hs, hprint, hinventory, fun b => ?_⟩
  have hv := value_eq_of_spanless (b := b) Registry.standard_readsLiterals.ignoresSpans hs
  exact ⟨hv, evaluate_eq_of_value hv⟩

end

theorem compile_eq_of_malformed_layout :
    (tokenize "f(x,\n  1.2.3) == \"a b\"\t) - @ list").map Token.written =
        (tokenize "f ( x,1.2.3)==\"a b\" )-@  list").map Token.written ∧
      (compile "f(x,\n  1.2.3) == \"a b\"\t) - @ list").2 = (compile "f ( x,1.2.3)==\"a b\" )-@  list").2 := by
  have h : (tokenize "f(x,\n  1.2.3) == \"a b\"\t) - @ list").map Token.written =
      (tokenize "f ( x,1.2.3)==\"a b\" )-@  list").map Token.written := by
    decide +kernel
  exact ⟨h, (compile_eq_of_layout h).1⟩

end Rule

end Verdict
