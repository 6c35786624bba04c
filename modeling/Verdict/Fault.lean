import Verdict.Operator
import Verdict.Text.Quoted

namespace Verdict

inductive ValueType
  | number | boolean | text | pattern | patternList | error
deriving DecidableEq

def ValueType.name : ValueType → String
  | number => "Number"
  | boolean => "Boolean"
  | text => "Text"
  | pattern => "Regex"
  | patternList => "RegexList"
  | error => "Error"

inductive Fault
  | emptyRule
  | unbound (name : String)
  | missingList (name : String)
  | undefinedFunction (callee : String)
  | negated (type : ValueType)
  | operands (left : ValueType) (op : Operator) (right : ValueType)
  | operator (op : Operator) (left right : ValueType)
  | badPattern (source : String)
  | unsupported (name shape : String)
  | reported (message : String)

def Fault.message : Fault → String
  | emptyRule => "empty rule"
  | unbound name => "identifier not found: " ++ name
  | missingList name => "missing list: " ++ name
  | undefinedFunction callee => "undefined function: " ++ callee
  | negated type => "unknown operator: -" ++ type.name
  | operands left op right =>
    "invalid expression: " ++ left.name ++ " " ++ op.text ++ " " ++ right.name
  | operator op left right =>
    "invalid operator: " ++ op.text ++ " for " ++ left.name ++ " and " ++ right.name
  | badPattern source => "invalid regex: " ++ Text.quote source
  | unsupported name shape => "invalid value for '" ++ name ++ "': unsupported " ++ shape
  | reported message => message

end Verdict
