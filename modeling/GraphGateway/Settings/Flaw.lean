import GraphGateway.Decimal.Binary
import GraphGateway.Decimal.Spelled
import GraphGateway.Value.Shown

/-!
Reading settings from dynamic values.  A setting takes any value that plainly means one of its own
type, such as `"12"` for a whole number.  What is wrong with a value is its flaw; all flaws of a set
of settings are told together.
-/
namespace GraphGateway.Settings

inductive Flaw where
  | belowLeast
  | aboveMost
  | unreadableWhole
  | overlongWhole
  | fractional
  | infinite
  | notWhole
  | unreadableNumber
  | notNumber
  | unreadableFlag
  | notFlag
  | notText
  | tooShort
  | unknownField
  | noSuchField
  | refused (reason : String)
  deriving DecidableEq, Repr

/-- The word for a flaw. -/
def Flaw.word : Flaw → String
  | belowLeast => "greater_than_equal"
  | aboveMost => "less_than_equal"
  | unreadableWhole => "int_parsing"
  | overlongWhole => "int_parsing_size"
  | fractional => "int_from_float"
  | infinite => "finite_number"
  | notWhole => "int_type"
  | unreadableNumber => "float_parsing"
  | notNumber => "float_type"
  | unreadableFlag => "bool_parsing"
  | notFlag => "bool_type"
  | notText => "string_type"
  | tooShort => "string_too_short"
  | unknownField => "extra_forbidden"
  | noSuchField => "no_such_attribute"
  | refused _ => "value_error"

/-- What a flaw says beyond its word. -/
def Flaw.message? : Flaw → Option String
  | refused reason => some s!"Value error, {reason}"
  | _ => none

/-- A flaw of one field, or of the settings as a whole. -/
structure Issue where
  field : Option String
  flaw : Flaw
  deriving DecidableEq, Repr

/-- A text that is kept from being shown. -/
structure Secret where
  text : String
  deriving DecidableEq, Repr

def Secret.shown (secret : Secret) : String :=
  if secret.text.isEmpty then "" else "**********"

abbrev Checked (α : Type) := Except Flaw α

def flagOfWord? (text : String) : Option Bool :=
  match String.ofList (text.toList.map Char.toLower) with
  | "0" => some false
  | "f" => some false
  | "n" => some false
  | "no" => some false
  | "off" => some false
  | "false" => some false
  | "1" => some true
  | "t" => some true
  | "y" => some true
  | "on" => some true
  | "yes" => some true
  | "true" => some true
  | _ => none

/-- Whether a number has a place among the machine's whole numbers of 64 bits. -/
def isWord (number : Int) : Bool :=
  -0x8000000000000000 ≤ number && number < 0x8000000000000000

def flagOfWhole (number : Int) : Checked Bool :=
  if number = 0 then .ok false
  else if number = 1 then .ok true
  else if isWord number then .error .unreadableFlag
  else .error .notFlag

/-- The whole number that a double is.  It has to be smaller in size than any that takes more than
64 bits. -/
def wholeOfFloat (number : Float) : Checked Int :=
  match Decimal.wholeOf? number, Decimal.readFloat number with
  | some whole, _ =>
      if whole.natAbs < 0x8000000000000000 then .ok whole else .error .overlongWhole
  | none, .finite _ => .error .fractional
  | none, _ => .error .infinite

def readFlag : Value → Checked Bool
  | .bool flag => .ok flag
  | .text content =>
      match flagOfWord? content with
      | some flag => .ok flag
      | none => .error .unreadableFlag
  | .int number => flagOfWhole number
  | .float number =>
      match wholeOfFloat number with
      | .ok whole => flagOfWhole whole
      | .error _ => .error .notFlag
  | _ => .error .notFlag

/-- What follows the zeros that a number begins with, with underscores among them.  A zero stays
before a point, and the last character stays where nothing follows. -/
def skipZeros? (last : Char) : List Char → Option (List Char)
  | [] => some [last]
  | c :: rest =>
      if c = '0' || c = '_' then skipZeros? c rest
      else if c.isDigit || c = '-' then some (c :: rest)
      else if c = '.' then some (last :: c :: rest)
      else none

/-- The digits of a number without the zeros they begin with. -/
def withoutZeros? : List Char → Option (List Char)
  | [] => none
  | c :: rest =>
      if c = '0' then skipZeros? c rest
      else if c.isDigit || c = '-' then some (c :: rest)
      else none

/-- A number without its point, if nothing but zeros follows it. -/
def withoutPoint (text : List Char) : List Char :=
  let zeros := (text.dropWhile (· != '.')).drop 1
  if !zeros.isEmpty && zeros.all (· = '0') then text.takeWhile (· != '.') else text

/-- The whole number of an optional minus and digits, of which none is a needless zero. -/
def plainWhole (text : List Char) : Checked Int :=
  let negative := text.head? = some '-'
  let digits := if negative then text.drop 1 else text
  let count := (digits.takeWhile Char.isDigit).length + (if negative then 1 else 0)
  if digits.head? = some '0' && digits.length != 1 then .error .unreadableWhole
  else if Decimal.wholeDigitLimit < count then .error .overlongWhole
  else
    match Decimal.wholeOfSigned? text with
    | some number => .ok number
    | none => .error .unreadableWhole

/-- The whole number that a text spells: a plus before it, needless zeros, underscores and a point
with zeros after it go by the board. -/
def wholeOfWord (text : String) : Checked Int :=
  let trimmed := Decimal.trimMargins text.toList
  let unsigned := if trimmed.head? = some '+' then trimmed.drop 1 else trimmed
  let doublySigned := trimmed.head? = some '+' && unsigned.head? = some '-'
  match if doublySigned then none else withoutZeros? unsigned with
  | some digits =>
      let whole := withoutPoint digits
      plainWhole ((Decimal.ungroupLoosely? whole).getD whole)
  | none => .error .unreadableWhole

def readAnyWhole : Value → Checked Int
  | .int number => .ok number
  | .bool flag => .ok (if flag then 1 else 0)
  | .text content => wholeOfWord content
  | .float number => wholeOfFloat number
  | _ => .error .notWhole

/-- A whole number between two bounds. -/
def readWhole (least most : Int) (value : Value) : Checked Int := do
  let number ← readAnyWhole value
  if most < number then throw .aboveMost
  if number < least then throw .belowLeast
  pure number

def numberOfWord? (text : String) : Option Float :=
  let trimmed := Decimal.trimMargins text.toList
  match Decimal.floatOfSigned? trimmed with
  | some number => some number
  | none => (Decimal.ungroupLoosely? text.toList).bind fun digits =>
      Decimal.floatOfSigned? digits

def readAnyNumber : Value → Checked Float
  | .float number => .ok number
  | .int number =>
      if number.natAbs.log2 < 1024 then .ok (Float.ofInt number) else .error .notNumber
  | .bool flag => .ok (if flag then 1.0 else 0.0)
  | .text content =>
      match numberOfWord? content with
      | some number => .ok number
      | none => .error .unreadableNumber
  | _ => .error .notNumber

/-- A double between two bounds; what is no number is above every bound. -/
def readNumber (least most : Float) (value : Value) : Checked Float := do
  let number ← readAnyNumber value
  if !(number <= most) then throw .aboveMost
  if number < least then throw .belowLeast
  pure number

def readText : Value → Checked String
  | .text content => .ok content
  | _ => .error .notText

/-- A text that is not empty. -/
def readFilledText (value : Value) : Checked String := do
  let content ← readText value
  if content.isEmpty then throw .tooShort
  pure content

def readSecret (value : Value) : Checked Secret :=
  Secret.mk <$> readText value

/-- A value that may be null. -/
def readOptional {α : Type} (read : Value → Checked α) : Value → Checked (Option α)
  | .null => .ok none
  | value => some <$> read value

/-- A field among the given ones, or its default. -/
def readField {α : Type} (given : Entries Value) (name : String) (default : α)
    (read : Value → Checked α) : Checked α :=
  match given.get? name with
  | some value => read value
  | none => .ok default

/-- The issue of a field that was read. -/
def issueOf {α : Type} (name : String) : Checked α → List Issue
  | .ok _ => []
  | .error flaw => [⟨some name, flaw⟩]

/-- The issues of the given fields that there are none of. -/
def strangers (known : List String) (given : Entries Value) : List Issue :=
  (given.keys.filter (!known.contains ·)).map fun name => ⟨some name, .unknownField⟩

/-- Why a value is not assigned to a name. -/
inductive Rejection where
  | issues (issues : List Issue)
  /-- What goes by the name is worked out from the fields. -/
  | workedOut
  deriving DecidableEq, Repr

/-- What comes of an assignment to any name.  A name that starts with an underscore is for notes,
which are taken but not kept. -/
def assignedTo {α : Type} (workedOut : List String) (settings : α) (name : String)
    (field : α × List Issue) : α × Option Rejection :=
  if workedOut.contains name then (settings, some .workedOut)
  else if name.toList.head? = some '_' then (settings, none)
  else (field.1, if field.2.isEmpty then none else some (.issues field.2))

/-- Sets a field to what its new value was read as. -/
def assigned {α β : Type} (settings : α) (name : String) (reading : Checked β) (set : β → α) :
    α × List Issue :=
  match reading with
  | .ok value => (set value, [])
  | .error flaw => (settings, [⟨some name, flaw⟩])

end GraphGateway.Settings
