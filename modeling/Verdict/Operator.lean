namespace Verdict

inductive Operator
  | add | sub | mul | div | rem
  | eq | ne | lt | le | gt | ge
  | and | or | contains | notContains
deriving DecidableEq

namespace Operator

def text : Operator → String
  | add => "+"
  | sub => "-"
  | mul => "*"
  | div => "/"
  | rem => "%"
  | eq => "=="
  | ne => "!="
  | lt => "<"
  | le => "<="
  | gt => ">"
  | ge => ">="
  | and => "and"
  | or => "or"
  | contains => "contains"
  | notContains => "not_contains"

end Operator

/-! Binding powers; a larger one binds more tightly. -/

namespace Power

def lowest : Nat := 0
def logical : Nat := 1
def equality : Nat := 2
def comparison : Nat := 3
def sum : Nat := 4
def product : Nat := 5
def quotient : Nat := 6
def negation : Nat := 7
def call : Nat := 8

end Power

/-- Division binds more tightly than multiplication and remainder. -/
def Operator.power : Operator → Nat
  | .and | .or => Power.logical
  | .eq | .ne | .contains | .notContains => Power.equality
  | .lt | .le | .gt | .ge => Power.comparison
  | .add | .sub => Power.sum
  | .mul | .rem => Power.product
  | .div => Power.quotient

theorem Operator.lowest_lt_power (op : Operator) : Power.lowest < op.power := by
  cases op <;> decide

theorem Operator.power_lt_negation (op : Operator) : op.power < Power.negation := by
  cases op <;> decide

end Verdict
