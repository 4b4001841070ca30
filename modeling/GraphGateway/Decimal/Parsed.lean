import GraphGateway.Decimal.Shortest

/-!
Numbers from their decimal digits: whole numbers of any size, and the double nearest to a decimal.
-/
namespace GraphGateway.Decimal

/-- Longer runs of digits are not taken for whole numbers. -/
def wholeDigitLimit : Nat := 4300

def digitOf (c : Char) : Nat := c.toNat - '0'.toNat

/-- The number that a row of ASCII digits spells. -/
def natOfDigits (digits : List Char) : Nat :=
  digits.foldl (fun number c => number * 10 + digitOf c) 0

/-- The infinite double. -/
def infinity : Float := Float.ofBits 0x7FF0000000000000

/-- The double that is not a number. -/
def notANumber : Float := Float.ofBits 0x7FF8000000000000

/-- The double nearest to `digits * 10 ^ exponent`.  Powers far outside the range of doubles are
answered without computing them. -/
def nearestFloat (digits : Nat) (exponent : Int) : Float :=
  let order := digitCount digits + exponent
  if digits = 0 || order < -330 then 0.0
  else if order > 320 then infinity
  else Float.ofScientific digits (exponent < 0) exponent.natAbs

/-- The double nearest to the decimal with these digits before and after its point. -/
def floatOfDigits (negative : Bool) (whole fraction : List Char) (exponent : Int) : Float :=
  let size := nearestFloat (natOfDigits (whole ++ fraction)) (exponent - fraction.length)
  if negative then -size else size

end GraphGateway.Decimal
