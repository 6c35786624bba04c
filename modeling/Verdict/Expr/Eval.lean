import Verdict.Environment
import Verdict.Expr.Print
import Verdict.Numeral.Reading
import Verdict.Numeral.Remainder
import Verdict.Registry
import Verdict.Text.Infix

namespace Verdict

variable [PatternEngine]

namespace Operator

def onNumbers (op : Operator) (l r : Float) : Value :=
  match op with
  | add => .number (l + r)
  | sub => .number (l - r)
  | mul => .number (l * r)
  | div => .number (l / r)
  | rem => .number (Numeral.remainder l r)
  | eq => .boolean (l == r)
  | ne => .boolean (l != r)
  | lt => .boolean (l < r)
  | le => .boolean (l ≤ r)
  | gt => .boolean (r < l)
  | ge => .boolean (r ≤ l)
  | and | or | contains | notContains => .error (.operator op .number .number)

def onBooleans (op : Operator) (l r : Bool) : Value :=
  match op with
  | and => .boolean (l && r)
  | or => .boolean (l || r)
  | _ => .error (.operator op .boolean .boolean)

def onTexts (op : Operator) (l r : String) : Value :=
  match op with
  | contains => .boolean (Text.hasInfix r.toList l.toList)
  | notContains => .boolean (!Text.hasInfix r.toList l.toList)
  | eq => .boolean (l == r)
  | ne => .boolean (l != r)
  | _ => .error (.operator op .text .text)

def onPattern (op : Operator) (text source : String) : Value :=
  match op with
  | contains | notContains =>
    match Pattern.compile source with
    | .ok p => .boolean (p.isMatch text == (op == contains))
    | .error _ => .error (.badPattern source)
  | _ => .error (.operator op .text .pattern)

def onPatternList (op : Operator) (text : String) (list : PatternList) : Value :=
  match op with
  | contains => .boolean (list.anyMatch text)
  | notContains => .boolean (list.anyMiss text)
  | _ => .error (.operator op .text .patternList)

def apply (op : Operator) : Value → Value → Value
  | .number l, .number r => op.onNumbers l r
  | .boolean l, .boolean r => op.onBooleans l r
  | .text l, .text r => op.onTexts l r
  | .text l, .pattern r => op.onPattern l r
  | .text l, .patternList r => op.onPatternList l r
  | l, r => .error (.operands l.type op r.type)

end Operator

def Value.negate : Value → Value
  | number x => number (-x)
  | v => error (.negated v.type)

namespace Expr

/-- The result of calling the function whose name is printed as the callee. -/
def evalCall (registry : Registry) (callee : Expr) (args : List Expr) : Value :=
  match registry.get? callee.print with
  | none => .error (.undefinedFunction callee.print)
  | some native =>
    match native args with
    | .ok v => v
    | .error e => .error (.reported e.message)

def eval (env : Environment) (registry : Registry) : Expr → Value
  | identifier name _ => (env.lookup name).getD (.error (.unbound name))
  | listRef name _ => (env.lookup name).getD (.error (.missingList name))
  | pattern source _ => .pattern source
  | text value _ => .text value
  | number literal _ => .number (Numeral.value literal)
  | boolean _ value _ => .boolean value
  | negate e _ => (e.eval env registry).negate
  | binary op l r _ => op.apply (l.eval env registry) (r.eval env registry)
  | call f args _ => evalCall registry f args

end Expr

end Verdict
