import GraphGateway.Decimal.Parsed
import GraphGateway.Text.Character

/-!
Numbers as people write them: blanks around them, a sign, underscores to group digits, a point, an
exponent, and words for what is infinite or no number.
-/
namespace GraphGateway.Decimal

/-- A blank that may stand around a number: no separator control. -/
def isMargin (c : Char) : Bool :=
  Text.isBlank c && !(0x1C ≤ c.toNat && c.toNat ≤ 0x1F)

def trimMargins (text : List Char) : List Char :=
  ((text.dropWhile isMargin).reverse.dropWhile isMargin).reverse

/-- The digits of all scripts as ASCII digits. -/
def asciiDigits (text : List Char) : List Char :=
  text.map fun c =>
    match Text.digitValue? c with
    | some digit => Char.ofNat ('0'.toNat + digit)
    | none => c

/-- Takes away the underscores between two digits; there may be no others. -/
def ungroup? : List Char → Option (List Char)
  | [] => some []
  | '_' :: _ => none
  | c :: '_' :: d :: rest =>
      if c.isDigit && d.isDigit then (ungroup? (d :: rest)).map (c :: ·) else none
  | c :: rest => (ungroup? rest).map (c :: ·)
  termination_by text => text.length

/-- Whether two underscores stand side by side. -/
def hasDoubleUnderscore : List Char → Bool
  | '_' :: '_' :: _ => true
  | _ :: rest => hasDoubleUnderscore rest
  | [] => false

/-- Takes away underscores wherever they stand, but at the ends and side by side. -/
def ungroupLoosely? (text : List Char) : Option (List Char) :=
  if text.head? = some '_' || text.getLast? = some '_' || hasDoubleUnderscore text then none
  else some (text.filter (· != '_'))

/-- The sign of a number, and the rest of it. -/
def splitSign : List Char → Bool × List Char
  | '-' :: rest => (true, rest)
  | '+' :: rest => (false, rest)
  | text => (false, text)

/-- The whole number of a sign and digits. -/
def wholeOfSigned? (text : List Char) : Option Int :=
  let (negative, digits) := splitSign text
  if digits.isEmpty || !digits.all Char.isDigit || wholeDigitLimit < digits.length then none
  else
    let size : Int := natOfDigits digits
    some (if negative then -size else size)

/-- The exponent at the end of a number: nothing, or a mark, a sign and digits. -/
def exponentOf? : List Char → Option Int
  | [] => some 0
  | mark :: rest =>
      if mark != 'e' && mark != 'E' then none
      else
        let (negative, digits) := splitSign rest
        if digits.isEmpty || !digits.all Char.isDigit then none
        else
          let size : Int := natOfDigits digits
          some (if negative then -size else size)

/-- The double that a word stands for. -/
def wordOf? (text : List Char) : Option Float :=
  match String.ofList (text.map Char.toLower) with
  | "inf" => some infinity
  | "infinity" => some infinity
  | "nan" => some notANumber
  | _ => none

/-- The double of a sign, digits with a point among them or beside them, and an exponent. -/
def floatOfSigned? (text : List Char) : Option Float :=
  let (negative, unsigned) := splitSign text
  match wordOf? unsigned with
  | some size => some (if negative then -size else size)
  | none =>
      let whole := unsigned.takeWhile Char.isDigit
      let rest := unsigned.dropWhile Char.isDigit
      let (fraction, rest) :=
        match rest with
        | '.' :: after => (after.takeWhile Char.isDigit, after.dropWhile Char.isDigit)
        | _ => ([], rest)
      if whole.isEmpty && fraction.isEmpty then none
      else (exponentOf? rest).map (floatOfDigits negative whole fraction)

/-- The whole number that a text spells in digits of any script. -/
def wholeOfText? (text : String) : Option Int :=
  (ungroup? (asciiDigits (trimMargins text.toList))).bind wholeOfSigned?

/-- The double that a text spells in digits of any script. -/
def floatOfText? (text : String) : Option Float :=
  (ungroup? (asciiDigits (trimMargins text.toList))).bind floatOfSigned?

end GraphGateway.Decimal
