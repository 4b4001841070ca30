import GraphGateway.Settings.Flaw
import GraphGateway.Text.LetterCase

/-!
Variables of the environment that stand in for settings.  One whose text cannot be read is passed
over with a warning.
-/
namespace GraphGateway.Settings

/-- A variable, the field it sets, and how its text is read. -/
structure Override where
  source : String
  field : String
  read : String → Option Value

/-- A word for yes or no in either case, with blanks around it. -/
def readSwitch (text : String) : Option Value :=
  match Text.lower (String.ofList (Text.trimBlanks text.toList)) with
  | "1" => some (.bool true)
  | "true" => some (.bool true)
  | "yes" => some (.bool true)
  | "on" => some (.bool true)
  | "0" => some (.bool false)
  | "false" => some (.bool false)
  | "no" => some (.bool false)
  | "off" => some (.bool false)
  | _ => none

def readWord (text : String) : Option Value := some (.text text)

def readCount (text : String) : Option Value := (Decimal.wholeOfText? text).map .int

def readSeconds (text : String) : Option Value := (Decimal.floatOfText? text).map .float

/-- Puts what a variable says in the place of a field. -/
def Override.apply (environment : Entries String) (override : Override)
    (state : Entries Value × List String) : Entries Value × List String :=
  match environment.get? override.source with
  | none => state
  | some text =>
      match override.read text with
      | some value => (state.1.put override.field value, state.2)
      | none => (state.1, state.2 ++ [s!"Ignoring invalid value for {override.source}"])

/-- The fields with what the environment says of them, and the warnings. -/
def overridden (overrides : List Override) (environment : Entries String) (base : Entries Value) :
    Entries Value × List String :=
  overrides.foldl (fun state override => override.apply environment state) (base, [])

end GraphGateway.Settings
