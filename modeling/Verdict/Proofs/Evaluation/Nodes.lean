import Mathlib.Tactic.Common
import Verdict.Rule.Inventory

namespace Verdict

namespace Expr

/-- All nodes that are not inside of a call, each of them in front of its operands. -/
def evaluated : Expr → List Expr
  | negate e s => negate e s :: e.evaluated
  | binary o l r s => binary o l r s :: (l.evaluated ++ r.evaluated)
  | e => [e]

def lookedUp? : Expr → Option String
  | identifier name _ | listRef name _ => some name
  | _ => none

def callSite? : Expr → Option CallSite
  | call f args _ => some ⟨f.print, args.map print⟩
  | _ => none

end Expr

variable {name : String} {site : CallSite}

namespace Inventory

open Verdict.Expr (evaluated lookedUp? callSite?)

lemma mem_required {i : Inventory} : name ∈ i.required ↔ name ∈ i.identifiers ∨ name ∈ i.lists := by
  simp [required]

lemma mem_required_collect : ∀ (e : Expr) (i : Inventory),
    name ∈ (collect e i).required ↔ (∃ d ∈ e.evaluated, d.lookedUp? = some name) ∨ name ∈ i.required
  | .identifier .., i => by simp [collect, mem_required, evaluated, lookedUp?, or_assoc, eq_comm]
  | .listRef .., i => by simp [collect, mem_required, evaluated, lookedUp?, or_left_comm, eq_comm]
  | .pattern .., i | .text .., i | .number .., i | .boolean .., i | .call .., i => by
    simp [collect, mem_required, evaluated, lookedUp?]
  | .negate e _, i => by
    rw [collect, mem_required_collect e i]
    simp [evaluated, lookedUp?]
  | .binary _ l r _, i => by
    rw [collect, mem_required_collect l, mem_required_collect r]
    simp [evaluated, lookedUp?, or_and_right, exists_or, or_assoc]

lemma mem_calls_collect : ∀ (e : Expr) (i : Inventory),
    site ∈ (collect e i).calls ↔ (∃ d ∈ e.evaluated, d.callSite? = some site) ∨ site ∈ i.calls
  | .identifier .., i | .listRef .., i | .pattern .., i | .text .., i | .number .., i | .boolean .., i => by
    simp [collect, evaluated, callSite?]
  | .call .., i => by simp [collect, evaluated, callSite?, eq_comm]
  | .negate e _, i => by
    rw [collect, mem_calls_collect e i]
    simp [evaluated, callSite?]
  | .binary _ l r _, i => by
    rw [collect, mem_calls_collect l, mem_calls_collect r]
    simp [evaluated, callSite?, or_and_right, exists_or, or_assoc]

end Inventory

namespace Rule

lemma mem_required (r : Rule) :
    name ∈ r.inventory.required ↔ ∃ e, r.expr = some e ∧ ∃ d ∈ e.evaluated, d.lookedUp? = some name := by
  have hn : name ∉ Inventory.empty.required := by
    simp [Inventory.mem_required, Inventory.empty]
  rw [inventory]
  cases r.expr with
  | none => simpa [Inventory.ofExpr] using hn
  | some e => simp [Inventory.ofExpr, Inventory.mem_required_collect, hn]

lemma mem_calls (r : Rule) :
    site ∈ r.inventory.calls ↔ ∃ e, r.expr = some e ∧ ∃ d ∈ e.evaluated, d.callSite? = some site := by
  rw [inventory]
  cases r.expr with
  | none => simp [Inventory.ofExpr, Inventory.empty]
  | some e => simp [Inventory.ofExpr, Inventory.mem_calls_collect, Inventory.empty]

end Rule

end Verdict
