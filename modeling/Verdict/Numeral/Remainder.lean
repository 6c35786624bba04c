import Verdict.Numeral.Dyadic

namespace Verdict.Numeral

namespace Dyadic

def rem (x y : Dyadic) : Dyadic :=
  let exponent := min x.exponent y.exponent
  let r := x.mantissa <<< (x.exponent - exponent) % y.mantissa <<< (y.exponent - exponent)
  nearest (r <<< exponent) (1 <<< 1074)

end Dyadic

/-- The sign is that of the dividend, and an infinite divisor leaves the dividend as it is. -/
def remainder (x y : Float) : Float :=
  if x.isNaN || y.isNaN || x.isInf || y == 0 then 0 / 0
  else if y.isInf then x
  else ((Dyadic.ofFloat x).rem (Dyadic.ofFloat y)).toFloat (isNegative x)

end Verdict.Numeral
