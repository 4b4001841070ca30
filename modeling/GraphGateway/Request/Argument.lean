import GraphGateway.Request.Fault

/-!
Arguments as they come: a value that counts as nothing stands for an empty one, and items are taken
of whatever has them.
-/
namespace GraphGateway.Request

/-- A value unless it counts as nothing, else an empty object. -/
def orEmpty (value : Option Value) : Value :=
  match value with
  | some found => if found.isTruthy then found else .object []
  | none => .object []

/-- The items of a list, the keys of an object, or the characters of a text. -/
def elementsOf : Value → Except Failure (List Value)
  | .list items => .ok items
  | .object entries => .ok (entries.map fun entry => .text entry.1)
  | .text content => .ok (content.toList.map fun c => .text (String.singleton c))
  | _ => .error .mismatched

/-- The items of a value, none if it counts as nothing. -/
def itemsOf (value : Value) : Except Failure (List Value) :=
  if value.isTruthy then elementsOf value else .ok []

/-- The entries of a value that has to be an object. -/
def objectEntries : Value → Except Failure (Entries Value)
  | .object entries => .ok entries
  | _ => .error .notObject

end GraphGateway.Request
