import GraphGateway.Decimal.Binary

/-!
The shortest decimal that reads back as a given double.  Every real of an interval around a double
rounds to it.  For one digit, two digits and so on up to seventeen, the two neighbours of the
double on that decimal grid are tried; the first grid with a neighbour in the interval gives the
digits, and of two the nearer one is taken.
-/
namespace GraphGateway.Decimal

/-- The decimal `digits * 10 ^ exponent`. -/
structure Scientific where
  digits : Nat
  exponent : Int
  deriving DecidableEq, Repr

/-- The reals that round to a positive double, as quotients over a common divisor. -/
structure Interval where
  low : Nat
  middle : Nat
  high : Nat
  divisor : Nat
  closed : Bool

/-- The interval of a positive double; its ends belong to it exactly if the mantissa is even.  Below
a power of two the doubles stand twice as close. -/
def Interval.around (mantissa : Nat) (exponent : Int) : Interval :=
  let scale := Nat.pow 2 (exponent - 2).toNat
  let gap := if mantissa = hiddenBit && exponent > -1074 then 1 else 2
  { low := (4 * mantissa - gap) * scale
    middle := 4 * mantissa * scale
    high := (4 * mantissa + 2) * scale
    divisor := Nat.pow 2 (2 - exponent).toNat
    closed := mantissa % 2 == 0 }

/-- The number of decimal digits of a whole number. -/
def digitCount (number : Nat) : Nat :=
  (Nat.toDigits 10 number).length

/-- The least `k` with `above / below < 10 ^ k`, for a positive quotient. -/
def decimalOrder (above below : Nat) : Int :=
  if below ≤ above then digitCount (above / below)
  else
    let zeros := digitCount (below / above)
    if above * Nat.pow 10 (zeros - 1) = below then 2 - zeros else 1 - zeros

/-- A neighbour of the middle of the interval on the grid of multiples of `10 ^ step`, if the
interval holds one. -/
def Interval.gridPoint? (interval : Interval) (step : Int) : Option Nat :=
  let up := Nat.pow 10 (-step).toNat
  let down := Nat.pow 10 step.toNat * interval.divisor
  let floor := interval.middle * up / down
  let within (point : Nat) : Bool :=
    if interval.closed then interval.low * up ≤ point * down && point * down ≤ interval.high * up
    else interval.low * up < point * down && point * down < interval.high * up
  match within floor, within (floor + 1) with
  | true, true =>
      let below := interval.middle * up - floor * down
      let above := (floor + 1) * down - interval.middle * up
      if below < above || (below = above && floor % 2 = 0) then some floor else some (floor + 1)
  | true, false => some floor
  | false, true => some (floor + 1)
  | false, false => none

/-- Moves the zeros at the end of the digits into the exponent. -/
def Scientific.trimmed (fuel : Nat) (value : Scientific) : Scientific :=
  match fuel with
  | 0 => value
  | fuel + 1 =>
      if value.digits % 10 = 0 && value.digits ≠ 0 then
        Scientific.trimmed fuel ⟨value.digits / 10, value.exponent + 1⟩
      else value

/-- The shortest decimal of a positive double. -/
def shortest (mantissa : Nat) (exponent : Int) : Scientific :=
  let interval := Interval.around mantissa exponent
  let order := decimalOrder interval.middle interval.divisor
  let found := (List.range 17).findSome? fun (extra : Nat) =>
    let step := order - (Int.ofNat extra + 1)
    (interval.gridPoint? step).map fun digits => Scientific.mk digits step
  (found.getD ⟨mantissa, 0⟩).trimmed 20

/-- How the digits of a double are laid out. -/
structure FloatFormat where
  /-- The decimal point stands in the digits while its place is between these two. -/
  leastPlace : Int
  mostPlace : Int
  /-- What follows a whole number. -/
  wholeTail : String
  exponentMark : String
  exponentWidth : Nat
  notANumber : String
  infinity : String

def padLeft (width : Nat) (text : String) : String :=
  String.ofList (List.replicate (width - text.length) '0') ++ text

/-- Digits with the decimal point after the first `place` of them, zeros filled in where digits are
missing. -/
def positional (format : FloatFormat) (digits : String) (place : Int) : String :=
  let count : Int := digits.length
  if place ≤ 0 then
    "0." ++ String.ofList (List.replicate (-place).toNat '0') ++ digits
  else if count ≤ place then
    digits ++ String.ofList (List.replicate (place - count).toNat '0') ++ format.wholeTail
  else
    String.ofList (digits.toList.take place.toNat) ++ "." ++
      String.ofList (digits.toList.drop place.toNat)

/-- One digit, the others after a point, and the power of ten. -/
def exponential (format : FloatFormat) (digits : String) (place : Int) : String :=
  let first := String.ofList (digits.toList.take 1)
  let rest := String.ofList (digits.toList.drop 1)
  let power := place - 1
  let sign := if power < 0 then "-" else "+"
  first ++ (if rest.isEmpty then "" else "." ++ rest) ++ format.exponentMark ++ sign ++
    padLeft format.exponentWidth (toString power.natAbs)

def FloatFormat.render (format : FloatFormat) (number : Float) : String :=
  match readFloat number with
  | .notANumber => format.notANumber
  | .infinite negative => (if negative then "-" else "") ++ format.infinity
  | .finite value =>
      let sign := if value.negative then "-" else ""
      if value.mantissa = 0 then sign ++ "0" ++ format.wholeTail
      else
        let decimal := shortest value.mantissa value.exponent
        let digits := toString decimal.digits
        let place := digits.length + decimal.exponent
        if format.leastPlace ≤ place && place ≤ format.mostPlace then
          sign ++ positional format digits place
        else sign ++ exponential format digits place

end GraphGateway.Decimal
