import Verdict.Engine.CharSet

namespace Verdict.Engine

abbrev ByteSequence := List (Nat × Nat)

def utf8 (code : Nat) : List Nat :=
  (String.singleton (Char.ofNat code)).toUTF8.toList.map UInt8.toNat

def encodingBounds : List Nat := [0x7F, 0x7FF, 0xFFFF]

/-- The first place at which a range of code points has to be cut: within it the bytes must vary
independently of each other. -/
def cut? (low high : Nat) : Option Nat :=
  (encodingBounds.find? fun b => low ≤ b && b < high).or <|
    if high < 0x80 then none
    else [64, 64 * 64, 64 * 64 * 64].findSome? fun block =>
      if low / block = high / block then none
      else if low % block ≠ 0 then some (low / block * block + block - 1)
      else if high % block ≠ block - 1 then some (high / block * block - 1)
      else none

def byteSequences : (fuel : Nat) → Nat → Nat → List ByteSequence
  | 0, _, _ => []
  | fuel + 1, low, high =>
    match cut? low high with
    | some middle => byteSequences fuel low middle ++ byteSequences fuel (middle + 1) high
    | none => [(utf8 low).zip (utf8 high)]

def maxEncoding : Nat := 4

def CharSet.byteSequences (s : CharSet) : List ByteSequence :=
  s.ranges.flatMap fun (low, high) => Engine.byteSequences 32 low high

end Verdict.Engine
