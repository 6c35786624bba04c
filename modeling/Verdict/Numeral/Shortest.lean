import Verdict.Numeral.Dyadic

namespace Verdict.Numeral

structure Decimal where
  digits : Nat
  exponent : Int

/-- The fractions `low / den`, `value / den` and `high / den`; the ends belong to the interval if `closed`. -/
structure Interval where
  low : Nat
  value : Nat
  high : Nat
  den : Nat
  closed : Bool

namespace Interval

def contains (i : Interval) (n : Nat) : Bool :=
  if i.closed then i.low ≤ n * i.den && n * i.den ≤ i.high
  else i.low < n * i.den && n * i.den < i.high

def nearestInteger? (i : Interval) : Option Nat :=
  let n := i.value / i.den
  let below := i.contains n && n != 0
  let above := i.contains (n + 1)
  if below && above then
    some (if 2 * (i.value % i.den) < i.den then n else n + 1)
  else if below then some n
  else if above then some (n + 1)
  else none

def scale (i : Interval) : Interval :=
  { i with low := 10 * i.low, value := 10 * i.value, high := 10 * i.high }

/-- The first grid `10 ^ e`, going down from `exponent`, with a point in the interval. -/
def coarsest : Nat → Int → Interval → Decimal
  | 0, exponent, i => ⟨i.value / i.den, exponent⟩
  | fuel + 1, exponent, i =>
    match i.nearestInteger? with
    | some n => ⟨n, exponent⟩
    | none => coarsest fuel (exponent - 1) i.scale

end Interval

def Dyadic.interval (d : Dyadic) (exponent : Int) : Interval :=
  let quarter := Nat.pow 10 (-exponent).toNat <<< d.exponent
  let lowest := d.mantissa == leastNormal && d.exponent != 0
  { low := (4 * d.mantissa - (if lowest then 1 else 2)) * quarter
    value := 4 * d.mantissa * quarter
    high := (4 * d.mantissa + 2) * quarter
    den := Nat.pow 10 exponent.toNat <<< 1076
    closed := d.mantissa % 2 == 0 }

def Dyadic.shortest (d : Dyadic) : Decimal :=
  let log2 : Int := Int.ofNat (d.mantissa.log2 + d.exponent) - 1073
  let exponent := Int.fdiv (log2 * 30103) 100000 + 1
  (d.interval exponent).coarsest 40 exponent

def Decimal.text (d : Decimal) : String :=
  let digits := Nat.toDigits 10 d.digits
  let places := (-d.exponent).toNat
  if places = 0 then String.ofList (digits ++ List.replicate d.exponent.toNat '0')
  else
    let padded := List.replicate (places + 1 - digits.length) '0' ++ digits
    let whole := padded.length - places
    String.ofList (padded.take whole ++ '.' :: padded.drop whole)

def text (x : Float) : String :=
  if x.isNaN then "NaN"
  else
    let magnitude :=
      if x.isInf then "inf" else if x == 0 then "0" else (Dyadic.ofFloat x).shortest.text
    if isNegative x then "-" ++ magnitude else magnitude

end Verdict.Numeral
