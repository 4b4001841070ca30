import GraphGateway.Value.Shown

/-!
Writing JSON text in ASCII and without blanks.  Every other character is written as its UTF-16
units in hexadecimal.
-/
namespace GraphGateway.Json

def hexEscape (unit : Nat) : List Char :=
  '\\' :: 'u' :: (Text.hexadecimal 4 unit).toList

/-- One character between the quotes of a JSON string. -/
def encodeChar (c : Char) : List Char :=
  match c with
  | '"' => ['\\', '"']
  | '\\' => ['\\', '\\']
  | '\n' => ['\\', 'n']
  | '\r' => ['\\', 'r']
  | '\t' => ['\\', 't']
  | '\x08' => ['\\', 'b']
  | '\x0c' => ['\\', 'f']
  | _ =>
      let code := (Text.carried? c).getD c.toNat
      if 0x20 ≤ code && code < 0x7F then [c]
      else if code < 0x10000 then hexEscape code
      else hexEscape (0xD800 + (code - 0x10000) / 0x400) ++
        hexEscape (0xDC00 + (code - 0x10000) % 0x400)

def encodeChars : List Char → List Char
  | [] => []
  | c :: rest => encodeChar c ++ encodeChars rest

/-- A JSON string. -/
def encodeString (text : String) : List Char :=
  '"' :: (encodeChars text.toList ++ ['"'])

/-- Doubles as messages show them, but for the words of those that are no numbers. -/
def floatFormat : Decimal.FloatFormat :=
  { Value.floatFormat with notANumber := "NaN", infinity := "Infinity" }

mutual

/-- The JSON text of a value. -/
def encode : Value → List Char
  | .null => "null".toList
  | .bool flag => (if flag then "true" else "false").toList
  | .int number => (toString number).toList
  | .float number => (floatFormat.render number).toList
  | .text content => encodeString content
  | .list items => '[' :: (encodeItems items ++ [']'])
  | .object entries => '\x7b' :: (encodeEntries entries ++ ['\x7d'])

def encodeItems : List Value → List Char
  | [] => []
  | [item] => encode item
  | item :: rest => encode item ++ ',' :: encodeItems rest

def encodeEntries : List (String × Value) → List Char
  | [] => []
  | [(key, value)] => encodeString key ++ ':' :: encode value
  | (key, value) :: rest => encodeString key ++ ':' :: (encode value ++ ',' :: encodeEntries rest)

end

end GraphGateway.Json
