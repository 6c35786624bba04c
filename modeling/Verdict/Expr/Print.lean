import Verdict.Expr

namespace Verdict.Expr

mutual

def print : Expr → String
  | identifier name _ => name
  | listRef name _ => "@" ++ name
  | pattern source _ => "r\"" ++ source ++ "\""
  | text value _ => "\"" ++ value ++ "\""
  | number literal _ => literal
  | boolean _ true _ => "true"
  | boolean _ false _ => "false"
  | negate e _ => "(-" ++ e.print ++ ")"
  | binary op l r _ => "(" ++ l.print ++ " " ++ op.text ++ " " ++ r.print ++ ")"
  | call f as _ => f.print ++ "(" ++ printArguments as ++ ")"

def printArguments : List Expr → String
  | [] => ""
  | [e] => e.print
  | e :: es => e.print ++ ", " ++ printArguments es

end

end Verdict.Expr
