import Verdict.Expr.Eval
import Verdict.Statement
import Verdict.Token.Scan

namespace Verdict

structure Rule where
  source : String
  statement : Statement

namespace Rule

def compile (source : String) : Rule × List Diagnostic :=
  let (s, c) := Statement.ofTokens (tokenize source)
  (⟨source, s⟩, c.diagnostics)

def parse (source : String) : Except ParseError Rule :=
  match compile source with
  | (rule, []) => .ok rule
  | (_, d :: ds) => .error ⟨d :: ds, by simp⟩

def expr (r : Rule) : Option Expr :=
  r.statement.expr

def print (r : Rule) : String :=
  r.statement.print

variable [PatternEngine]

def evalIn (r : Rule) (env : Environment) (registry : Registry) : Value :=
  match r.expr with
  | none => .error .emptyRule
  | some e => e.eval env registry

def value (r : Rule) (b : Bindings) (registry : Registry) : Value :=
  r.evalIn (.ofBindings b) registry

def evaluateWith (r : Rule) (b : Bindings) (registry : Registry) : Bool :=
  (r.value b registry).verdict

def evaluate (r : Rule) (b : Bindings) : Bool :=
  r.evaluateWith b .standard

end Rule

end Verdict
