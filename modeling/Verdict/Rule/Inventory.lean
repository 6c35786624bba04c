import Verdict.Rule
import Std.Data.TreeSet.Basic

namespace Verdict

structure CallSite where
  name : String
  arguments : List String
deriving DecidableEq

structure Inventory where
  identifiers : List String
  lists : List String
  patterns : List String
  numbers : List Float
  texts : List String
  calls : List CallSite
deriving BEq

namespace Inventory

def empty : Inventory := ⟨[], [], [], [], [], []⟩

/-- The inventory of an expression in front of what comes after it. -/
def collect : Expr → Inventory → Inventory
  | .identifier name _, i => { i with identifiers := name :: i.identifiers }
  | .listRef name _, i => { i with lists := name :: i.lists }
  | .pattern source _, i => { i with patterns := source :: i.patterns }
  | .text value _, i => { i with texts := value :: i.texts }
  | .number literal _, i => { i with numbers := Numeral.value literal :: i.numbers }
  | .boolean .., i => i
  | .negate e _, i => collect e i
  | .binary _ l r _, i => collect l (collect r i)
  | .call f args _, i => { i with calls := ⟨f.print, args.map Expr.print⟩ :: i.calls }

def ofExpr (e : Option Expr) : Inventory :=
  e.elim empty fun e => collect e empty

def required (i : Inventory) : List String :=
  (Std.TreeSet.ofList (i.identifiers ++ i.lists)).toList

end Inventory

def Rule.inventory (r : Rule) : Inventory :=
  .ofExpr r.expr

end Verdict
