import Verdict.Engine
import Verdict.Proofs.Evaluation.Nodes

namespace Verdict

section

variable [PatternEngine] {env : Environment} {registry : Registry} {b : Bindings} {name : String}

namespace Value

variable {v w : Value}

lemma exists_fault (h : v.isError = true) : ∃ f, v = .error f := by
  cases v with
  | error f => exact ⟨f, rfl⟩
  | _ => simp [isError, fault?] at h

lemma verdict_of_isError (h : v.isError = true) : v.verdict = false := by
  obtain ⟨f, rfl⟩ := exists_fault h
  rfl

lemma isError_negate (h : v.isError = true) : v.negate.isError = true := by
  obtain ⟨f, rfl⟩ := exists_fault h
  rfl

lemma isError_apply_left (op : Operator) (h : v.isError = true) : (op.apply v w).isError = true := by
  obtain ⟨f, rfl⟩ := exists_fault h
  cases w <;> rfl

lemma isError_apply_right (op : Operator) (h : w.isError = true) : (op.apply v w).isError = true := by
  obtain ⟨f, rfl⟩ := exists_fault h
  cases v <;> rfl

end Value

def Bindings.Lacks (b : Bindings) (name : String) : Prop :=
  b.get? name = none ∨ ∃ shape, b.get? name = some (.unsupported shape)

lemma Bindings.Lacks.lookup (h : b.Lacks name) (f : Fault) :
    (((Environment.ofBindings b).lookup name).getD (.error f)).isError = true := by
  rw [Environment.lookup_ofBindings]
  rcases h with h | ⟨shape, h⟩
  · rw [h]
    rfl
  · rw [h]
    rfl

namespace Expr

variable {d : Expr}

lemma isError_eval_of_mem (hd : (d.eval env registry).isError = true) :
    ∀ e : Expr, d ∈ e.evaluated → (e.eval env registry).isError = true
  | negate e _, h => by
    rcases List.mem_cons.1 h with rfl | h
    · exact hd
    · exact Value.isError_negate (isError_eval_of_mem hd e h)
  | binary o l r _, h => by
    rcases List.mem_cons.1 h with rfl | h
    · exact hd
    · rcases List.mem_append.1 h with h | h
      · exact Value.isError_apply_left o (isError_eval_of_mem hd l h)
      · exact Value.isError_apply_right o (isError_eval_of_mem hd r h)
  | identifier .., h | listRef .., h | pattern .., h | text .., h | number .., h | boolean .., h | call .., h => by
    obtain rfl := List.mem_singleton.1 h
    exact hd

lemma isError_eval_of_lacks (hd : d.lookedUp? = some name) (hb : b.Lacks name) :
    (d.eval (.ofBindings b) registry).isError = true := by
  cases d with
  | identifier other s =>
    obtain rfl := Option.some.inj hd
    exact hb.lookup _
  | listRef other s =>
    obtain rfl := Option.some.inj hd
    exact hb.lookup _
  | _ => simp [lookedUp?] at hd

end Expr

namespace Rule

lemma isError_value_of_mem {r : Rule} {e d : Expr} (he : r.expr = some e) (hm : d ∈ e.evaluated)
    (hd : (d.eval (.ofBindings b) registry).isError = true) : (r.value b registry).isError = true := by
  rw [value, evalIn, he]
  exact Expr.isError_eval_of_mem hd e hm

theorem isError_of_evaluated (r : Rule) (b : Bindings) (registry : Registry) :
    (∀ e d, r.expr = some e → d ∈ e.evaluated → (d.eval (.ofBindings b) registry).isError = true →
      (r.value b registry).isError = true ∧ r.evaluateWith b registry = false) ∧
    (∀ name ∈ r.inventory.required, b.Lacks name →
      (r.value b registry).isError = true ∧ r.evaluateWith b registry = false) := by
  have hrefuse : (r.value b registry).isError = true →
      (r.value b registry).isError = true ∧ r.evaluateWith b registry = false :=
    fun h => ⟨h, Value.verdict_of_isError h⟩
  constructor
  · intro e d he hm hd
    exact hrefuse (isError_value_of_mem he hm hd)
  · intro name hn hb
    obtain ⟨e, he, d, hm, hl⟩ := r.mem_required.1 hn
    exact hrefuse (isError_value_of_mem he hm (Expr.isError_eval_of_lacks hl hb))

end Rule

end

namespace Rule

theorem isError_of_true_or_missing :
    "missing" ∈ (compile "true or missing").1.inventory.required ∧ Bindings.empty.Lacks "missing" ∧
      ((compile "true or missing").1.value .empty .standard).isError = true ∧
      (compile "true or missing").1.evaluateWith .empty .standard = false :=
  have hn : "missing" ∈ (compile "true or missing").1.inventory.required := by decide +kernel
  have hb : Bindings.empty.Lacks "missing" := .inl (Bindings.get?_empty _)
  ⟨hn, hb, (isError_of_evaluated _ _ _).2 _ hn hb⟩

end Rule

end Verdict
