import Verdict.Operator
import Verdict.Span

namespace Verdict

/-- A number keeps its spelling, which fixes its value; a Boolean keeps its own beside the value. -/
inductive Expr
  | identifier (name : String) (span : Span)
  | listRef (name : String) (span : Span)
  | pattern (source : String) (span : Span)
  | text (value : String) (span : Span)
  | number (literal : String) (span : Span)
  | boolean (literal : String) (value : Bool) (span : Span)
  | negate (operand : Expr) (span : Span)
  | binary (op : Operator) (left right : Expr) (span : Span)
  | call (callee : Expr) (arguments : List Expr) (span : Span)

namespace Expr

mutual

def beq : Expr → Expr → Bool
  | identifier n s, identifier n' s' => n = n' ∧ s = s'
  | listRef n s, listRef n' s' => n = n' ∧ s = s'
  | pattern p s, pattern p' s' => p = p' ∧ s = s'
  | text v s, text v' s' => v = v' ∧ s = s'
  | number l s, number l' s' => l = l' ∧ s = s'
  | boolean l b s, boolean l' b' s' => l = l' ∧ b = b' ∧ s = s'
  | negate e s, negate e' s' => beq e e' && s = s'
  | binary o l r s, binary o' l' r' s' => o = o' && beq l l' && beq r r' && s = s'
  | call f as s, call f' as' s' => beq f f' && beqAll as as' && s = s'
  | _, _ => false

def beqAll : List Expr → List Expr → Bool
  | [], [] => true
  | a :: as, b :: bs => beq a b && beqAll as bs
  | _, _ => false

end

mutual

theorem beq_iff (a b : Expr) : beq a b = true ↔ a = b := by
  cases a <;> cases b <;> simp [beq]
  · exact fun _ => beq_iff _ _
  · rw [beq_iff, beq_iff]
    simp [and_assoc]
  · rw [beq_iff, beqAll_iff]
    simp [and_assoc]

theorem beqAll_iff (as bs : List Expr) : beqAll as bs = true ↔ as = bs := by
  cases as <;> cases bs <;> simp [beqAll]
  rw [beq_iff, beqAll_iff]

end

instance : DecidableEq Expr :=
  fun a b => decidable_of_iff _ (beq_iff a b)

def span : Expr → Span
  | identifier _ s | listRef _ s | pattern _ s | text _ s | number _ s | boolean _ _ s
  | negate _ s | binary _ _ _ s | call _ _ s => s

def literal : Expr → String
  | identifier name _ | listRef name _ => name
  | pattern source _ => source
  | text value _ => value
  | number literal _ | boolean literal _ _ => literal
  | negate .. => "-"
  | binary op .. => op.text
  | call .. => "("

mutual

def height : Expr → Nat
  | negate e _ => e.height + 1
  | binary _ l r _ => max l.height r.height + 1
  | call f as _ => max f.height (heightAll as) + 1
  | _ => 1

def heightAll : List Expr → Nat
  | [] => 0
  | e :: es => max e.height (heightAll es)

end

end Expr

end Verdict
