import Verdict.Expr.Parse
import Verdict.Expr.Print

namespace Verdict

structure Statement where
  expr : Option Expr
  span : Span
deriving DecidableEq

namespace Statement

def empty : Statement := ⟨none, ⟨0, 0⟩⟩

def literal (s : Statement) : String :=
  s.expr.elim "" Expr.literal

def print (s : Statement) : String :=
  s.expr.elim "" Expr.print

def next (t : Token) (c : Cursor) : Statement × Cursor :=
  match Expr.read maxNesting Power.lowest c with
  | (some (e, _), c) => (⟨some e, e.span⟩, c)
  | (none, c) => (⟨none, t.span⟩, c)

def last : (fuel : Nat) → Statement → Cursor → Statement × Cursor
  | 0, kept, c => (kept, c)
  | fuel + 1, kept, c =>
    match c.tokens with
    | [] => (kept, c)
    | t :: _ =>
      let (s, c) := next t c
      last fuel s c.advance

def ofTokens (tokens : List Token) : Statement × Cursor :=
  last tokens.length empty (.ofTokens tokens)

end Statement

end Verdict
