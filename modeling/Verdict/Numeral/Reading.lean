import Verdict.Numeral.Dyadic

namespace Verdict.Numeral

def digitsValue (digits : List Char) : Nat :=
  digits.foldl (fun n c => 10 * n + (c.toNat - '0'.toNat)) 0

def isDecimal (numeral : String) : Bool :=
  numeral.toList.count '.' ≤ 1

def value (numeral : String) : Float :=
  let cs := numeral.toList
  let places := (cs.dropWhile (· != '.')).length - 1
  (Dyadic.nearest (digitsValue (cs.filter (· != '.'))) (Nat.pow 10 places)).toFloat false

def ofInt (n : Int) : Float :=
  (Dyadic.nearest n.natAbs 1).toFloat (n < 0)

end Verdict.Numeral
