import GraphGateway.Graphql.Document
import GraphGateway.Json.Reader

/-!
The value that a literal spells where no type says what to make of it.  A name stands for its text,
and a number is read as in JSON; one that is too long to be read is not a number.
-/
namespace GraphGateway.Graphql

/-- The number that a spelling stands for. -/
def numberValue (spelling : String) : Value :=
  (Json.read? spelling.toList).getD (.float Decimal.notANumber)

mutual

/-- The value of a literal; a variable that is not given counts as null. -/
def Literal.value (bindings : Entries Value) : Literal → Value
  | .variable name => (Entries.get? bindings name).getD .null
  | .int spelling => numberValue spelling
  | .float spelling => numberValue spelling
  | .string content _ => .text content
  | .boolean flag => .bool flag
  | .null => .null
  | .enum name => .text name
  | .list items => .list (Literal.values bindings items)
  | .object fields => .object (Entries.ofPairs (Literal.fieldValues bindings fields))

def Literal.values (bindings : Entries Value) : List Literal → List Value
  | [] => []
  | item :: rest => item.value bindings :: Literal.values bindings rest

def Literal.fieldValues (bindings : Entries Value) : List (String × Literal) → Entries Value
  | [] => []
  | (name, item) :: rest => (name, item.value bindings) :: Literal.fieldValues bindings rest

end

/-- The value of an argument of a directive on a declaration; of several the last one counts. -/
def Directive.argument (directive : Directive) (name : String) : Value :=
  ((directive.arguments.reverse.lookup name).map (Literal.value [])).getD .null

end GraphGateway.Graphql
