import GraphGateway.Decimal.Shortest
import GraphGateway.Text.Printable
import GraphGateway.Text.Surrogate
import GraphGateway.Value

/-!
The text of a value inside a message.  Texts stand in quotes with their hidden characters spelt by
number, lists in brackets, objects in braces, and a double is written with the fewest digits that
read back.
-/
namespace GraphGateway

open Decimal (FloatFormat)

/-- A double has its point among the digits from four places before them to sixteen places into
them; a whole one keeps `.0`, and an exponent has a sign and at least two digits. -/
def Value.floatFormat : FloatFormat where
  leastPlace := -3
  mostPlace := 16
  wholeTail := ".0"
  exponentMark := "e"
  exponentWidth := 2
  notANumber := "nan"
  infinity := "inf"

namespace Text

/-- A number in hexadecimal with at least `width` digits. -/
def hexadecimal (width number : Nat) : String :=
  Decimal.padLeft width (String.ofList (Nat.toDigits 16 number))

/-- One character between quotes: the quote and the backslash after a backslash, a line end or tab
by its letter, a hidden character by its number. -/
def quotedChar (quote c : Char) : String :=
  if c = quote || c = '\\' then String.ofList ['\\', c]
  else if c = '\n' then "\\n"
  else if c = '\r' then "\\r"
  else if c = '\t' then "\\t"
  else if let some unit := carried? c then "\\u" ++ hexadecimal 4 unit
  else if isPrintable c then String.singleton c
  else if c.toNat < 0x100 then "\\x" ++ hexadecimal 2 c.toNat
  else if c.toNat < 0x10000 then "\\u" ++ hexadecimal 4 c.toNat
  else "\\U" ++ hexadecimal 8 c.toNat

/-- A text stands in single quotes, in double ones if it holds single ones and no double one. -/
def quoted (text : String) : String :=
  let quote := if text.toList.contains '\'' && !text.toList.contains '"' then '"' else '\''
  String.singleton quote ++ String.join (text.toList.map (quotedChar quote)) ++
    String.singleton quote

end Text

mutual

/-- The text of a value in a message. -/
def Value.shown : Value → String
  | .null => "None"
  | .bool true => "True"
  | .bool false => "False"
  | .int number => toString number
  | .float number => Value.floatFormat.render number
  | .text content => Text.quoted content
  | .list items => "[" ++ ", ".intercalate (Value.shownItems items) ++ "]"
  | .object entries => "\x7b" ++ ", ".intercalate (Value.shownEntries entries) ++ "\x7d"

def Value.shownItems : List Value → List String
  | [] => []
  | item :: rest => item.shown :: Value.shownItems rest

def Value.shownEntries : List (String × Value) → List String
  | [] => []
  | (key, value) :: rest => (Text.quoted key ++ ": " ++ value.shown) :: Value.shownEntries rest

end

/-- The text of a value that stands on its own: a text as it is, all others as shown in messages. -/
def Value.plain : Value → String
  | .text content => content
  | value => value.shown

end GraphGateway
