import Verdict.Text.Quoted
import Verdict.Token

namespace Verdict

inductive Diagnostic
  | noOperand (found : TokenKind)
  | expected (wanted found : TokenKind)
  | badNumber (literal : String)
  | nestedTooDeeply
deriving DecidableEq

def Diagnostic.message : Diagnostic → String
  | noOperand found => "no prefix parse function for " ++ found.name ++ " found"
  | expected wanted found =>
    "expected next token to be " ++ wanted.name ++ ", got " ++ found.name ++ " instead"
  | badNumber literal => "could not parse " ++ Text.quote literal ++ " as number"
  | nestedTooDeeply => "expression nested too deeply"

structure ParseError where
  diagnostics : List Diagnostic
  ne_nil : diagnostics ≠ []
deriving DecidableEq

namespace ParseError

def messages (e : ParseError) : List String :=
  e.diagnostics.map Diagnostic.message

def message (e : ParseError) : String :=
  "parse error: " ++ "; ".intercalate e.messages

end ParseError

end Verdict
