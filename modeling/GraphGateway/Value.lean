import GraphGateway.Entries

/-!
Dynamic values: arguments and variables that clients send, parameters bound to a statement, and the
rows that the database answers.  Whole numbers and floating-point numbers are kept apart, and the
entries of an object keep their order.
-/
namespace GraphGateway

inductive Value where
  | null
  | bool (flag : Bool)
  | int (number : Int)
  | float (number : Float)
  | text (content : String)
  | list (items : List Value)
  | object (entries : List (String × Value))
  deriving Inhabited, Repr

namespace Value

/-- The entry of an object under a key. -/
def get? (key : String) : Value → Option Value
  | .object entries => Entries.get? entries key
  | _ => none

/-- A text, or null where there is none. -/
def textOrNull : Option String → Value
  | some content => .text content
  | none => .null

def isNull : Value → Bool
  | .null => true
  | _ => false

/-- Whether a value is a text with some content. -/
def isText (content : String) : Value → Bool
  | .text other => other == content
  | _ => false

/-- Whether a value counts as true where a condition is asked of it: zero, empty and null do not. -/
def isTruthy : Value → Bool
  | .null => false
  | .bool flag => flag
  | .int number => number != 0
  | .float number => number != 0
  | .text content => !content.isEmpty
  | .list items => !items.isEmpty
  | .object entries => !entries.isEmpty

@[simp] theorem isNull_iff (value : Value) : value.isNull = true ↔ value = .null := by
  cases value <;> simp [isNull]

@[simp] theorem isText_iff (content : String) (value : Value) :
    value.isText content = true ↔ value = .text content := by
  cases value <;> simp [isText]

@[simp] theorem get?_object (key : String) (entries : List (String × Value)) :
    (Value.object entries).get? key = Entries.get? entries key := rfl

end Value

end GraphGateway
