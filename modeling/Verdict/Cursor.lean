import Verdict.Diagnostic

namespace Verdict

structure Cursor where
  tokens : List Token
  moves : Nat
  diagnostics : List Diagnostic
  abandoned : Bool

namespace Cursor

def ofTokens (tokens : List Token) : Cursor :=
  ⟨tokens, 0, [], false⟩

def kindOf : List Token → TokenKind
  | [] => .eof
  | t :: _ => t.kind

def current (c : Cursor) : TokenKind :=
  kindOf c.tokens

def peek (c : Cursor) : TokenKind :=
  kindOf c.tokens.tail

def advance (c : Cursor) : Cursor :=
  { c with tokens := c.tokens.tail, moves := c.moves + 1 }

def report (d : Diagnostic) (c : Cursor) : Cursor :=
  if c.abandoned then c else { c with diagnostics := c.diagnostics ++ [d] }

def expect (wanted : TokenKind) (c : Cursor) : Bool × Cursor :=
  if c.peek = wanted then (true, c.advance) else (false, c.report (.expected wanted c.peek))

def abandon (c : Cursor) : Cursor :=
  let c := c.report .nestedTooDeeply
  { c with tokens := [], moves := c.moves + c.tokens.length, abandoned := true }

end Cursor

end Verdict
