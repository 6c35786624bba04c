import Verdict.Fault
import Verdict.Numeral.Shortest
import Verdict.PatternList

namespace Verdict

variable [PatternEngine]

inductive Value
  | number (x : Float)
  | boolean (b : Bool)
  | text (s : String)
  | pattern (source : String)
  | patternList (list : PatternList)
  | error (fault : Fault)

namespace Value

def type : Value → ValueType
  | number _ => .number
  | boolean _ => .boolean
  | text _ => .text
  | pattern _ => .pattern
  | patternList _ => .patternList
  | error _ => .error

def fault? : Value → Option Fault
  | error f => some f
  | _ => none

def isError (v : Value) : Bool :=
  v.fault?.isSome

def toBool? : Value → Option Bool
  | boolean b => some b
  | _ => none

def verdict (v : Value) : Bool :=
  v.toBool?.getD false

theorem verdict_eq_true_iff (v : Value) : v.verdict = true ↔ v = boolean true := by
  cases v <;> simp [verdict, toBool?]

instance : BEq Value where
  beq
    | number x, number y => x == y
    | boolean b, boolean c => b == c
    | text s, text t => s == t
    | pattern s, pattern t => s == t
    | patternList l, patternList m => l == m
    | error f, error g => f.message == g.message
    | _, _ => false

def print : Value → String
  | number x => Numeral.text x
  | boolean true => "true"
  | boolean false => "false"
  | text s => s
  | pattern s => s
  | patternList l => Text.quoteList l.texts
  | error f => "error: " ++ f.message

end Value

end Verdict
