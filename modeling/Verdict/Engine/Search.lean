import Verdict.Engine.Regex

/-! A set of positions in a text is a number whose bit `i` says that the position before the character `i` belongs to
it. -/

namespace Verdict.Engine

def positions : List Bool → Nat
  | [] => 0
  | b :: bs => 2 * positions bs + b.toNat

theorem testBit_positions (bs : List Bool) (i : Nat) :
    (positions bs).testBit i = bs[i]?.getD false := by
  induction bs generalizing i with
  | nil => simp [positions]
  | cons b bs ih =>
    cases i with
    | zero => cases b <;> simp [positions, Nat.testBit_zero]
    | succ i =>
      have hb := b.toNat_le
      have h : (2 * positions bs + b.toNat) / 2 = positions bs := by omega
      simp [positions, Nat.testBit_succ, h, ih]

def neighbours (before : Option Char) : List Char → List (Option Char × Option Char)
  | [] => [(before, none)]
  | c :: cs => (before, some c) :: neighbours (some c) cs

def Atom.positions (text : List Char) : Atom → List Nat
  | .text chars => chars.map fun c => Engine.positions (text.map (· == c))
  | .oneOf s _ => [Engine.positions (text.map fun c => s.contains c.toNat)]

def Look.positions (text : List Char) (l : Look) : Nat :=
  Engine.positions ((neighbours none text).map fun (before, after) => l.holds before after)

def after (step : Nat → Nat) : Nat → Nat → Nat
  | 0, start => start
  | n + 1, start => if start = 0 then 0 else after step n (step start)

def within (step : Nat → Nat) : Nat → (found fresh : Nat) → Nat
  | 0, found, _ => found
  | n + 1, found, fresh =>
    let reached := step fresh
    let fresh := reached ^^^ (reached &&& found)
    if fresh = 0 then found else within step n (found ||| fresh) fresh

mutual

/-- The ends of the matches that begin at the given positions of a text with `length` characters. More
than `length + 1` repetitions reach nothing new, because one of them has to stay where it is. -/
def Regex.ends (length : Nat) : Regex (List Nat) Nat → Nat → Nat
  | .empty, starts => starts
  | .atom places, starts => places.foldl (fun starts p => (starts &&& p) <<< 1) starts
  | .look places, starts => starts &&& places
  | .concat items, starts => Regex.endsOfAll length items starts
  | .alt branches, starts => Regex.endsOfAny length branches starts
  | .rep body least most _, starts =>
    let first := after (body.ends length) (min least (length + 1)) starts
    let more := most.elim (length + 1) fun n => min (n - least) (length + 1)
    within (body.ends length) more first first
  | .capture body, starts => body.ends length starts

def Regex.endsOfAll (length : Nat) : List (Regex (List Nat) Nat) → Nat → Nat
  | [], starts => starts
  | r :: rs, starts => Regex.endsOfAll length rs (r.ends length starts)

def Regex.endsOfAny (length : Nat) : List (Regex (List Nat) Nat) → Nat → Nat
  | [], _ => 0
  | r :: rs, starts => r.ends length starts ||| Regex.endsOfAny length rs starts

end

def CharRegex.isMatch (r : CharRegex) (text : List Char) : Bool :=
  (r.map (Atom.positions text) (Look.positions text)).ends text.length
    (1 <<< (text.length + 1) - 1) != 0

end Verdict.Engine
