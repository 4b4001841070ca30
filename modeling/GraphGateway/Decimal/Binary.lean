/-!
The exact value of a double: a sign, a whole mantissa and a power of two.
-/
namespace GraphGateway.Decimal

/-- The number `mantissa * 2 ^ exponent`, negated if `negative` says so. -/
structure Binary where
  negative : Bool
  mantissa : Nat
  exponent : Int
  deriving DecidableEq, Repr

inductive Reading where
  | notANumber
  | infinite (negative : Bool)
  | finite (value : Binary)
  deriving DecidableEq, Repr

/-- The bit above the fraction in the mantissa of a normal double: two to the power 52. -/
def hiddenBit : Nat := 0x10000000000000

/-- Takes the 64 bits of a double apart: sign, eleven bits of exponent, 52 bits of fraction. -/
def readBits (bits : Nat) : Reading :=
  let negative := bits.testBit 63
  let biased : Nat := (bits >>> 52) % 0x800
  let fraction : Nat := bits % hiddenBit
  if biased = 2047 then
    if fraction = 0 then .infinite negative else .notANumber
  else if biased = 0 then .finite ⟨negative, fraction, -1074⟩
  else .finite ⟨negative, hiddenBit + fraction, (biased : Int) - 1075⟩

def readFloat (number : Float) : Reading :=
  readBits number.toBits.toNat

/-- The value as a quotient of a whole number by a positive whole number. -/
def Binary.quotient (value : Binary) : Int × Nat :=
  let size : Int := value.mantissa * Nat.pow 2 value.exponent.toNat
  (if value.negative then -size else size, Nat.pow 2 (-value.exponent).toNat)

/-- The whole number that a double equals, if there is one. -/
def wholeOf? (number : Float) : Option Int :=
  match readFloat number with
  | .finite value =>
      let quotient := value.quotient
      if quotient.1 % quotient.2 = 0 then some (quotient.1 / quotient.2) else none
  | _ => none

/-- Whether two quotients with positive divisors stand in increasing order. -/
def quotientLess (first second : Int × Nat) : Bool :=
  first.1 * second.2 < second.1 * first.2

/-- How two doubles or whole numbers compare; nothing compares with what is not a number. -/
inductive Extended where
  | below
  | exact (quotient : Int × Nat)
  | above

def Extended.ofInt (number : Int) : Extended := .exact (number, 1)

def Extended.ofFloat? (number : Float) : Option Extended :=
  match readFloat number with
  | .notANumber => none
  | .infinite negative => some (if negative then .below else .above)
  | .finite value => some (.exact value.quotient)

def Extended.less : Extended → Extended → Bool
  | .below, .below => false
  | .below, _ => true
  | .exact _, .below => false
  | .exact first, .exact second => quotientLess first second
  | .exact _, .above => true
  | .above, _ => false

end GraphGateway.Decimal
