import Verdict.Engine.CharSet
import Verdict.Text.Alphabetic
import Verdict.Text.Digit
import Verdict.Text.WordMark

namespace Verdict.Engine

inductive Regex (A L : Type)
  | empty
  | atom (a : A)
  | look (test : L)
  | concat (items : List (Regex A L))
  | alt (branches : List (Regex A L))
  | rep (body : Regex A L) (least : Nat) (most : Option Nat) (greedy : Bool)
  | capture (body : Regex A L)

section

variable {A B L M : Type}

mutual

def Regex.map (f : A → B) (g : L → M) : Regex A L → Regex B M
  | .empty => .empty
  | .atom a => .atom (f a)
  | .look t => .look (g t)
  | .concat items => .concat (Regex.mapAll f g items)
  | .alt branches => .alt (Regex.mapAll f g branches)
  | .rep body least most greedy => .rep (body.map f g) least most greedy
  | .capture body => .capture (body.map f g)

def Regex.mapAll (f : A → B) (g : L → M) : List (Regex A L) → List (Regex B M)
  | [] => []
  | r :: rs => r.map f g :: Regex.mapAll f g rs

end

end

/-! Characters of words, digits and white space. -/

def asciiWordRanges : List (Nat × Nat) :=
  [(0x30, 0x39), (0x41, 0x5A), (0x5F, 0x5F), (0x61, 0x7A)]

def wordSet : CharSet :=
  .ofRanges (Text.alphabeticRanges ++ Text.digitRanges ++ Text.wordMarkRanges)

def isWordChar (unicode : Bool) (c : Char) : Bool :=
  if unicode && c.toNat ≥ 0x80 then wordSet.contains c.toNat
  else Text.inRanges asciiWordRanges c

inductive Look
  | textStart
  | textEnd
  | lineStart (crlf : Bool)
  | lineEnd (crlf : Bool)
  | boundary (unicode : Bool)
  | notBoundary (unicode : Bool)
  | wordStart (unicode : Bool)
  | wordEnd (unicode : Bool)
  | wordStartHalf (unicode : Bool)
  | wordEndHalf (unicode : Bool)
deriving DecidableEq

/-- With `crlf` a line ends before a carriage return, and never between it and a line feed. -/
def Look.holds (before after : Option Char) : Look → Bool
  | textStart => before.isNone
  | textEnd => after.isNone
  | lineStart false => before.all (· == '\n')
  | lineEnd false => after.all (· == '\n')
  | lineStart true =>
    before.all (· == '\n') || (before == some '\r' && after != some '\n')
  | lineEnd true =>
    after.all (· == '\r') || (after == some '\n' && before != some '\r')
  | boundary u => before.any (isWordChar u) != after.any (isWordChar u)
  | notBoundary u => before.any (isWordChar u) == after.any (isWordChar u)
  | wordStart u => !before.any (isWordChar u) && after.any (isWordChar u)
  | wordEnd u => before.any (isWordChar u) && !after.any (isWordChar u)
  | wordStartHalf u => !before.any (isWordChar u)
  | wordEndHalf u => !after.any (isWordChar u)

inductive Atom
  | text (chars : List Char)
  | oneOf (set : CharSet) (unicode : Bool)
deriving DecidableEq

abbrev CharRegex := Regex Atom Look

end Verdict.Engine
