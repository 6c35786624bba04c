import Mathlib.Tactic.Common
import Verdict.Rule

/-! A relation of values that the operators preserve holds between two values of a rule if it holds between the values
of every name. -/

namespace Verdict

variable [PatternEngine]

structure Value.Congruence (R : Value → Value → Prop) : Prop where
  refl (v : Value) : R v v
  negate {v v' : Value} : R v v' → R v.negate v'.negate
  apply (op : Operator) {v v' w w' : Value} : R v v' → R w w' → R (op.apply v w) (op.apply v' w')

variable {R : Value → Value → Prop} {S : HostValue → HostValue → Prop} {env env' : Environment} {registry : Registry}
  {b b' : Bindings}

lemma Value.Congruence.getD {a a' : Option Value} (hR : Value.Congruence R) (h : Option.Rel R a a') (v : Value) :
    R (a.getD v) (a'.getD v) := by
  cases h with
  | some h => exact h
  | none => exact hR.refl v

lemma Expr.eval_related (hR : Value.Congruence R)
    (h : ∀ name, Option.Rel R (env.lookup name) (env'.lookup name)) :
    ∀ e : Expr, R (e.eval env registry) (e.eval env' registry)
  | identifier name _ | listRef name _ => by
    rw [eval, eval]
    exact hR.getD (h name) _
  | pattern .. | text .. | number .. | boolean .. => hR.refl _
  | negate e _ => by
    rw [eval, eval]
    exact hR.negate (eval_related hR h e)
  | binary op l r _ => by
    rw [eval, eval]
    exact hR.apply op (eval_related hR h l) (eval_related hR h r)
  -- A function sees its arguments and no values.
  | call f args _ => by
    rw [eval, eval]
    exact hR.refl _

lemma Environment.lookup_related (hS : ∀ name host host', S host host' → R (host.toValue name) (host'.toValue name))
    (h : ∀ name, Option.Rel S (b.get? name) (b'.get? name)) (name : String) :
    Option.Rel R ((ofBindings b).lookup name) ((ofBindings b').lookup name) := by
  have hn := h name
  rw [lookup_ofBindings, lookup_ofBindings]
  generalize b.get? name = host, b'.get? name = host' at hn
  cases hn with
  | some hn => exact .some (hS name _ _ hn)
  | none => exact .none

lemma Rule.value_related (hR : Value.Congruence R)
    (hS : ∀ name host host', S host host' → R (host.toValue name) (host'.toValue name))
    (h : ∀ name, Option.Rel S (b.get? name) (b'.get? name)) (r : Rule) :
    R (r.value b registry) (r.value b' registry) := by
  rw [value, value, evalIn, evalIn]
  cases r.expr with
  | none => exact hR.refl _
  | some e => exact Expr.eval_related hR (Environment.lookup_related hS h) e

end Verdict
