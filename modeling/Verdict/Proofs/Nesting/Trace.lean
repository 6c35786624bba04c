import Verdict.Proofs.Grammar.Outcome
import Verdict.Statement

/-! Reading with a counter of the expressions that are open and a record of what happens, the counter alone deciding
whether one more may be opened. -/

namespace Verdict

inductive Event
  /-- A top-level expression begins while the counter stands at `depth`. -/
  | statement (depth : Nat)
  /-- A call of the reader passes the test of the counter; one that the test refuses is no event. -/
  | opened
  | closed
  /-- A tree is handed over with a height. -/
  | measured (e : Expr) (height : Nat)
deriving DecidableEq

structure Watch where
  cursor : Cursor
  depth : Nat
  events : List Event

namespace Watch

open Verdict.Expr (Measured Reading Reader follow)

variable {α : Type}

abbrev Watched (α : Type) := Option α × Watch

abbrev WatchedReader := Nat → Watch → Watched Measured

def on (w : Watch) (f : Cursor → Cursor) : Watch :=
  { w with cursor := f w.cursor }

def note (w : Watch) (x : Event) : Watch :=
  { w with events := w.events ++ [x] }

def enter (w : Watch) : Watch :=
  { w with depth := w.depth + 1, events := w.events ++ [.opened] }

def leave (w : Watch) : Watch :=
  { w with depth := w.depth - 1, events := w.events ++ [.closed] }

def lift (w : Watch) (r : Cursor → Reading α) : Watched α :=
  ((r w.cursor).1, w.on fun _ => (r w.cursor).2)

def recorded (r : Watched Measured) : Watched Measured :=
  match r with
  | (some m, w) => (some m, w.note (.measured m.1 m.2))
  | (none, w) => (none, w)

/-- No operand but a negated one and one in parentheses opens an expression. -/
def silent : Reader := fun _ c => (none, c)

def expectClosing (r : Watched α) : Watched α :=
  match r.2.cursor.expect .rparen with
  | (true, c) => (r.1, r.2.on fun _ => c)
  | (false, c) => (none, r.2.on fun _ => c)

def negation (read : WatchedReader) (start : Span) (w : Watch) : Watched Measured :=
  follow (read Power.negation (w.on .advance)) fun m w =>
    w.lift (Expr.nest (.negate m.1 (start.union m.1.span)) (m.2 + 1))

def group (read : WatchedReader) (w : Watch) : Watched Measured :=
  expectClosing (read Power.lowest (w.on .advance))

def operand (read : WatchedReader) (w : Watch) : Watched Measured :=
  recorded <|
    match w.cursor.current with
    | .op .sub => negation read (Expr.currentSpan w.cursor ⟨0, 0⟩) w
    | .lparen => group read w
    | _ => w.lift (Expr.operand silent)

def argumentList (read : WatchedReader) : Nat → Watch → Watched (List Expr × Nat)
  | 0, w => (some ([], 0), w)
  | fuel + 1, w =>
    let (first, w) := read Power.lowest w
    let (others, w) :=
      if w.cursor.peek = .comma then argumentList read fuel (w.on fun c => c.advance.advance) else (some ([], 0), w)
    match first, others with
    | some (e, h), some (es, hs) => (some (e :: es, max h hs), w)
    | _, _ => (none, w)

def arguments (read : WatchedReader) (w : Watch) : Watched (List Expr × Nat) :=
  if w.cursor.peek = .rparen then (some ([], 0), w.on .advance)
  else expectClosing (argumentList read (w.cursor.tokens.length + 1) (w.on .advance))

def application (read : WatchedReader) (f : Measured) (w : Watch) : Watched Measured :=
  follow (arguments read w) fun a w => w.lift fun c =>
    Expr.nest (.call f.1 a.1 (f.1.span.union (Expr.currentSpan c f.1.span))) (max f.2 a.2 + 1) c

def operation (read : WatchedReader) (left : Measured) (w : Watch) : Watched Measured :=
  recorded <|
    match w.cursor.current with
    | .lparen => application read left w
    | .op o =>
      follow (read o.power (w.on .advance)) fun r w =>
        w.lift (Expr.nest (.binary o left.1 r.1 (left.1.span.union r.1.span)) (max left.2 r.2 + 1))
    | _ => (none, w)

def operations (read : WatchedReader) (power : Nat) : Nat → Measured → Watch → Watched Measured
  | 0, left, w => (some left, w)
  | fuel + 1, left, w =>
    if power < w.cursor.peek.power ∧ w.cursor.current ≠ .eof then
      follow (operation read left (w.on .advance)) (operations read power fuel)
    else (some left, w)

def chain (read : WatchedReader) (power : Nat) (w : Watch) : Watched Measured :=
  let r := follow (operand read w.enter) fun m w => operations read power w.cursor.tokens.length m w
  recorded (r.1, r.2.leave)

/-- An expression is opened unless `maxNesting` are open already, whatever is left of the fuel. The call that is refused
then gives the source up, and only the calls before it count as open. -/
def read : (fuel : Nat) → WatchedReader
  | 0, _, w => (none, w.on .abandon)
  | fuel + 1, power, w => if maxNesting ≤ w.depth then (none, w.on .abandon) else chain (read fuel) power w

def next (t : Token) (w : Watch) : Statement × Watch :=
  match read (maxNesting + 1) Power.lowest (w.note (.statement w.depth)) with
  | (some (e, _), w) => (⟨some e, e.span⟩, w)
  | (none, w) => (⟨none, t.span⟩, w)

def last : (fuel : Nat) → Statement → Watch → Statement × Watch
  | 0, kept, w => (kept, w)
  | fuel + 1, kept, w =>
    match w.cursor.tokens with
    | [] => (kept, w)
    | t :: _ =>
      let (s, w) := next t w
      last fuel s (w.on .advance)

def ofTokens (tokens : List Token) : Statement × Watch :=
  last tokens.length .empty ⟨.ofTokens tokens, 0, []⟩

end Watch

end Verdict
