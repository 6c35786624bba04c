import Verdict.Cursor
import Verdict.Expr
import Verdict.Numeral.Reading

/-! Reading goes on after an error; only a source nested deeper than `maxNesting` is abandoned. -/

namespace Verdict

/-- The most expressions that may be open at once, and the greatest height of a tree. -/
def maxNesting : Nat := 256

namespace Expr

abbrev Measured := Expr × Nat

abbrev Reading (α : Type) := Option α × Cursor

/-- What reads an expression whose operators all bind more tightly than the given power. -/
abbrev Reader := Nat → Cursor → Reading Measured

def nest (e : Expr) (height : Nat) (c : Cursor) : Reading Measured :=
  if height > maxNesting then (none, c.abandon) else (some (e, height), c)

def negation (read : Reader) (start : Span) (c : Cursor) : Reading Measured :=
  match read Power.negation c.advance with
  | (none, c) => (none, c)
  | (some (e, height), c) => nest (negate e (start.union e.span)) (height + 1) c

/-- The closing parenthesis is demanded even if nothing could be read before it. -/
def group (read : Reader) (c : Cursor) : Reading Measured :=
  let (e, c) := read Power.lowest c.advance
  match c.expect .rparen with
  | (true, c) => (e, c)
  | (false, c) => (none, c)

def numeral (t : Token) (c : Cursor) : Reading Measured :=
  if Numeral.isDecimal t.literal then (some (number t.literal t.span, 1), c)
  else (none, c.report (.badNumber t.literal))

def operand (read : Reader) (c : Cursor) : Reading Measured :=
  match c.tokens with
  | [] => (none, c.report (.noOperand .eof))
  | t :: _ =>
    match t.kind with
    | .ident => (some (identifier t.literal t.span, 1), c)
    | .listName => (some (listRef t.literal t.span, 1), c)
    | .text => (some (text t.literal t.span, 1), c)
    | .pattern => (some (pattern t.literal t.span, 1), c)
    | .boolean b => (some (boolean t.literal b t.span, 1), c)
    | .number => numeral t c
    | .op .sub => negation read t.span c
    | .lparen => group read c
    | kind => (none, c.report (.noOperand kind))

def argumentList (read : Reader) : Nat → Cursor → Reading (List Expr × Nat)
  | 0, c => (some ([], 0), c)
  | fuel + 1, c =>
    let (first, c) := read Power.lowest c
    let (others, c) :=
      if c.peek = .comma then argumentList read fuel c.advance.advance else (some ([], 0), c)
    match first, others with
    | some (e, h), some (es, hs) => (some (e :: es, max h hs), c)
    | _, _ => (none, c)

def arguments (read : Reader) (c : Cursor) : Reading (List Expr × Nat) :=
  if c.peek = .rparen then (some ([], 0), c.advance)
  else
    let (args, c) := argumentList read (c.tokens.length + 1) c.advance
    match c.expect .rparen with
    | (true, c) => (args, c)
    | (false, c) => (none, c)

def currentSpan (c : Cursor) (otherwise : Span) : Span :=
  match c.tokens with
  | [] => otherwise
  | t :: _ => t.span

def application (read : Reader) (f : Measured) (c : Cursor) : Reading Measured :=
  match arguments read c with
  | (none, c) => (none, c)
  | (some (args, height), c) =>
    nest (call f.1 args (f.1.span.union (currentSpan c f.1.span))) (max f.2 height + 1) c

def operation (read : Reader) (left : Measured) (c : Cursor) : Reading Measured :=
  match c.current with
  | .lparen => application read left c
  | .op o =>
    match read o.power c.advance with
    | (none, c) => (none, c)
    | (some (r, height), c) =>
      nest (binary o left.1 r (left.1.span.union r.span)) (max left.2 height + 1) c
  | _ => (none, c)

def operations (read : Reader) (power : Nat) : Nat → Measured → Cursor → Reading Measured
  | 0, left, c => (some left, c)
  | fuel + 1, left, c =>
    if power < c.peek.power ∧ c.current ≠ .eof then
      match operation read left c.advance with
      | (none, c) => (none, c)
      | (some e, c) => operations read power fuel e c
    else (some left, c)

/-- At most `room` expressions may be open at once, this one among them. -/
def read : (room : Nat) → Reader
  | 0, _, c => (none, c.abandon)
  | room + 1, power, c =>
    match operand (read room) c with
    | (none, c) => (none, c)
    | (some e, c) => operations (read room) power c.tokens.length e c

end Expr

end Verdict
