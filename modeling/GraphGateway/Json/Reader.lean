import GraphGateway.Decimal.Parsed
import GraphGateway.Text.Surrogate
import GraphGateway.Value

/-!
Reading JSON text.  Besides the standard grammar the words `NaN`, `Infinity` and `-Infinity` are
numbers.  A number with a point or an exponent is a double, any other is whole.  A key that comes
twice keeps its first place and its last value.  An escape that names a surrogate on its own is read
as the private character that carries it, and so is indistinct from that character itself.
-/
namespace GraphGateway.Json

open Text (isHighSurrogate isLowSurrogate surrogatePair unitChar)

def isBlank (c : Char) : Bool :=
  c = ' ' || c = '\t' || c = '\n' || c = '\r'

def skipBlank (text : List Char) : List Char :=
  text.dropWhile isBlank

def hexDigit? (c : Char) : Option Nat :=
  if '0' ≤ c && c ≤ '9' then some (c.toNat - '0'.toNat)
  else if 'a' ≤ c && c ≤ 'f' then some (c.toNat - 'a'.toNat + 10)
  else if 'A' ≤ c && c ≤ 'F' then some (c.toNat - 'A'.toNat + 10)
  else none

/-- The number that four hexadecimal digits spell. -/
def hexUnit? (a b c d : Char) : Option Nat := do
  let first ← hexDigit? a
  let second ← hexDigit? b
  let third ← hexDigit? c
  let fourth ← hexDigit? d
  pure (first * 4096 + second * 256 + third * 16 + fourth)

/-- The character that a backslash and one letter stand for. -/
def simpleEscape? : Char → Option Char
  | '"' => some '"'
  | '\\' => some '\\'
  | '/' => some '/'
  | 'b' => some '\x08'
  | 'f' => some '\x0c'
  | 'n' => some '\n'
  | 'r' => some '\r'
  | 't' => some '\t'
  | _ => none

def consFirst {α β : Type} (item : α) (result : Option (List α × β)) : Option (List α × β) :=
  result.map fun (items, rest) => (item :: items, rest)

/-- The characters up to the closing quote, and what follows it. -/
def readString : List Char → Option (List Char × List Char)
  | [] => none
  | '"' :: rest => some ([], rest)
  | '\\' :: 'u' :: a :: b :: c :: d :: rest =>
      match hexUnit? a b c d with
      | none => none
      | some unit =>
          match isHighSurrogate unit, rest with
          | true, '\\' :: 'u' :: e :: f :: g :: h :: after =>
              match hexUnit? e f g h with
              | none => none
              | some low =>
                  if isLowSurrogate low then consFirst (surrogatePair unit low) (readString after)
                  else consFirst (unitChar unit)
                    (readString ('\\' :: 'u' :: e :: f :: g :: h :: after))
          | _, rest => consFirst (unitChar unit) (readString rest)
  | '\\' :: c :: rest =>
      match simpleEscape? c with
      | some escaped => consFirst escaped (readString rest)
      | none => none
  | c :: rest => if c.toNat < 0x20 || c = '\\' then none else consFirst c (readString rest)

/-- The digits at the head of the text and what follows them. -/
def splitDigits (text : List Char) : List Char × List Char :=
  (text.takeWhile Char.isDigit, text.dropWhile Char.isDigit)

/-- The digits after a point, if there is a point with a digit behind it. -/
def readFraction : List Char → Option (List Char) × List Char
  | '.' :: rest =>
      let (digits, after) := splitDigits rest
      if digits.isEmpty then (none, '.' :: rest) else (some digits, after)
  | text => (none, text)

/-- The power of ten after an exponent mark, if the mark has a number behind it. -/
def readExponent (text : List Char) : Option Int × List Char :=
  match text with
  | mark :: rest =>
      if mark = 'e' || mark = 'E' then
        let (negative, unsigned) : Bool × List Char :=
          match rest with
          | '-' :: after => (true, after)
          | '+' :: after => (false, after)
          | _ => (false, rest)
        let (digits, after) := splitDigits unsigned
        if digits.isEmpty then (none, text)
        else
          let size : Int := Decimal.natOfDigits digits
          (some (if negative then -size else size), after)
      else (none, text)
  | [] => (none, [])

/-- A number whose sign has been read.  A zero at its head stands alone before the point. -/
def readNumber (negative : Bool) (text : List Char) : Option (Value × List Char) :=
  let (whole, rest) : List Char × List Char :=
    match text with
    | '0' :: rest => (['0'], rest)
    | _ => splitDigits text
  if whole.isEmpty then none
  else
    let (fraction, afterFraction) := readFraction rest
    let (exponent, afterExponent) := readExponent afterFraction
    match fraction, exponent with
    | none, none =>
        if whole.length > Decimal.wholeDigitLimit then none
        else
          let size : Int := Decimal.natOfDigits whole
          some (.int (if negative then -size else size), rest)
    | _, _ =>
        some (.float (Decimal.floatOfDigits negative whole (fraction.getD [])
          (exponent.getD 0)), afterExponent)

/-- The rest of a text that starts with a word. -/
def stripWord : List Char → List Char → Option (List Char)
  | [], rest => some rest
  | c :: word, d :: rest => if c = d then stripWord word rest else none
  | _ :: _, [] => none

/-- The words with a value of their own. -/
def wordValues : List (List Char × Value) :=
  [("null".toList, .null), ("true".toList, .bool true), ("false".toList, .bool false),
   ("NaN".toList, .float Decimal.notANumber), ("Infinity".toList, .float Decimal.infinity),
   ("-Infinity".toList, .float (-Decimal.infinity))]

/-- A value without parts. -/
def readPlain (text : List Char) : Option (Value × List Char) :=
  match wordValues.findSome? fun (word, value) =>
      (stripWord word text).map fun rest => (value, rest) with
  | some found => some found
  | none =>
      match text with
      | '-' :: rest => readNumber true rest
      | _ => readNumber false text

/-- Why a text is no JSON text, or is not read to its end. -/
inductive Fault where
  | malformed
  /-- Lists and objects nest deeper than they may. -/
  | tooDeep
  deriving DecidableEq, Repr

/-- What was read and what is left, or a malformed text. -/
def orMalformed {α : Type} (read : Option α) : Except Fault α :=
  match read with
  | some found => .ok found
  | none => .error .malformed

mutual

/-- A value at the head of the text.  A character takes two calls at most, which `fuel` has to be
enough for, and lists and objects may nest as deep as `depth` says. -/
def readValue : Nat → Nat → List Char → Except Fault (Value × List Char)
  | 0, _, _ => .error .malformed
  | fuel + 1, depth, text =>
      match text with
      | '"' :: rest => do
          let (content, after) ← orMalformed (readString rest)
          pure (.text (String.ofList content), after)
      | '[' :: rest =>
          match depth with
          | 0 => .error .tooDeep
          | depth + 1 =>
              match skipBlank rest with
              | ']' :: after => .ok (.list [], after)
              | items => do
                  let (values, after) ← readItems fuel depth items
                  pure (.list values, after)
      | '\x7b' :: rest =>
          match depth with
          | 0 => .error .tooDeep
          | depth + 1 =>
              match skipBlank rest with
              | '\x7d' :: after => .ok (.object [], after)
              | entries => do
                  let (read, after) ← readEntries fuel depth [] entries
                  pure (.object read, after)
      | _ => orMalformed (readPlain text)

/-- Values separated by commas, up to the closing bracket. -/
def readItems : Nat → Nat → List Char → Except Fault (List Value × List Char)
  | 0, _, _ => .error .malformed
  | fuel + 1, depth, text => do
      let (value, rest) ← readValue fuel depth text
      match skipBlank rest with
      | ',' :: after => do
          let (values, left) ← readItems fuel depth (skipBlank after)
          pure (value :: values, left)
      | ']' :: after => pure ([value], after)
      | _ => throw .malformed

/-- Entries separated by commas, up to the closing brace, put after those already read. -/
def readEntries : Nat → Nat → List (String × Value) → List Char →
    Except Fault (List (String × Value) × List Char)
  | 0, _, _, _ => .error .malformed
  | fuel + 1, depth, before, text =>
      match text with
      | '"' :: rest => do
          let (key, afterKey) ← orMalformed (readString rest)
          match skipBlank afterKey with
          | ':' :: afterColon => do
              let (value, rest) ← readValue fuel depth (skipBlank afterColon)
              let entries := Entries.put before (String.ofList key) value
              match skipBlank rest with
              | ',' :: after => readEntries fuel depth entries (skipBlank after)
              | '\x7d' :: after => pure (entries, after)
              | _ => throw .malformed
          | _ => throw .malformed
      | _ => .error .malformed

end

/-- The value that a whole text spells, with lists and objects nested up to some depth. -/
def readNested (depth : Nat) (text : List Char) : Except Fault Value := do
  let (value, rest) ← readValue (2 * text.length + 1) depth (skipBlank text)
  if (skipBlank rest).isEmpty then pure value else throw .malformed

/-- The value that a whole text spells. -/
def read? (text : List Char) : Option Value :=
  match readNested text.length text with
  | .ok value => some value
  | .error _ => none

end GraphGateway.Json
