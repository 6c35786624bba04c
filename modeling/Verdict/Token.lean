import Verdict.Operator
import Verdict.Span
import Verdict.Text.Lower

namespace Verdict

inductive TokenKind
  | eof
  | illegal
  | ident
  | listName
  | text
  | number
  | pattern
  | boolean (value : Bool)
  | op (operator : Operator)
  | lparen
  | rparen
  | comma
deriving DecidableEq

namespace TokenKind

def ofWord (word : String) : TokenKind :=
  match Text.lower word with
  | "and" => op .and
  | "or" => op .or
  | "contains" => op .contains
  | "not_contains" => op .notContains
  | "true" => boolean true
  | "false" => boolean false
  | _ => ident

def name : TokenKind → String
  | eof => "EOF"
  | illegal => "ILLEGAL"
  | ident => "IDENT"
  | listName => "LISTNAME"
  | text => "STRING"
  | number => "NUMBER"
  | pattern => "REGEX"
  | boolean true => "TRUE"
  | boolean false => "FALSE"
  | op .and => "AND"
  | op .or => "OR"
  | op .contains => "CONTAINS"
  | op .notContains => "NOT_CONTAINS"
  | op o => o.text
  | lparen => "("
  | rparen => ")"
  | comma => ","

def spell : TokenKind → List Char → List Char
  | pattern, literal => 'r' :: '"' :: (literal ++ ['"'])
  | text, literal => '"' :: (literal ++ ['"'])
  | listName, literal => '@' :: literal
  | _, literal => literal

def power : TokenKind → Nat
  | op o => o.power
  | lparen => Power.call
  | _ => Power.lowest

end TokenKind

structure Token where
  kind : TokenKind
  literal : String
  span : Span
deriving DecidableEq

end Verdict
