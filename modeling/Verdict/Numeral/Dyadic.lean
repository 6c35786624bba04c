/-! A finite double has the magnitude `mantissa * 2 ^ exponent / 2 ^ 1074` with a mantissa of at most `2 ^ 53`. -/

namespace Verdict.Numeral

structure Dyadic where
  mantissa : Nat
  exponent : Nat

def roundHalfEven (num den : Nat) : Nat :=
  let q := num / den
  let r := num % den
  if 2 * r > den ∨ (2 * r = den ∧ q % 2 = 1) then q + 1 else q

theorem roundHalfEven_mul {den : Nat} (h : 0 < den) (q : Nat) : roundHalfEven (q * den) den = q := by
  have h' : den ≠ 0 := by omega
  simp [roundHalfEven, Nat.mul_div_cancel _ h, h'.symm]

theorem roundHalfEven_bounds (num : Nat) {den : Nat} (h : 0 < den) :
    2 * num ≤ (2 * roundHalfEven num den + 1) * den ∧
      2 * roundHalfEven num den * den ≤ 2 * num + den := by
  have hd := Nat.div_add_mod num den
  have hm := Nat.mod_lt num h
  have hc : num / den * den = den * (num / den) := Nat.mul_comm _ _
  simp only [roundHalfEven]
  split
  · simp only [Nat.add_mul, Nat.mul_add, Nat.mul_assoc]
    omega
  · simp only [Nat.add_mul, Nat.mul_assoc]
    omega

namespace Dyadic

def leastNormal : Nat := 0x10000000000000

def ofBits (bits : Nat) : Dyadic :=
  let fraction := bits % leastNormal
  let biased := bits / leastNormal % 0x800
  if biased = 0 then ⟨fraction, 0⟩ else ⟨leastNormal + fraction, biased - 1⟩

def ofFloat (x : Float) : Dyadic :=
  ofBits x.toBits.toNat

def infinityBits : Nat := 0x7FF0000000000000

def signBit : Nat := 0x8000000000000000

/-- A mantissa rounded up to twice the least normal one carries into the exponent. -/
def bits (d : Dyadic) : Nat :=
  min (d.exponent * leastNormal + d.mantissa) infinityBits

def nearest (num den : Nat) : Dyadic :=
  let low := if num = 0 then 0 else num.log2 + 1021 - den.log2
  let scaled := num <<< 1074
  let exponent := if scaled / (den <<< low) < 2 * leastNormal then low else low + 1
  ⟨roundHalfEven scaled (den <<< exponent), exponent⟩

def toFloat (d : Dyadic) (negative : Bool) : Float :=
  Float.ofBits (UInt64.ofNat (if negative then signBit + d.bits else d.bits))

end Dyadic

def isNegative (x : Float) : Bool :=
  x.toBits.toNat ≥ Dyadic.signBit

end Verdict.Numeral
