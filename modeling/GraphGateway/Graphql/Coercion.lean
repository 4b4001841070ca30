import GraphGateway.Decimal.Spelled
import GraphGateway.Graphql.LiteralFit

/-!
Values of a type, from variables that a client sends and from literals.  A single value becomes a
list where a list is wanted, and the fields of an object come in the order of its type.
-/
namespace GraphGateway.Graphql

/-- The value in as many lists as its type has. -/
def TypeExpr.wrap : TypeExpr → Value → Value
  | .named _, value => value
  | .list item, value => .list [item.wrap value]
  | .nonNull inner, value => inner.wrap value

/-- The value of a 32-bit whole number. -/
def int32? (number : Int) : Option Value :=
  if fitsInt32 number then some (.int number) else none

def isFinite (number : Float) : Bool := !number.isNaN && !number.isInf

/-- The text of a whole number that names something. -/
def identifierText? (number : Int) : Option Value :=
  if Decimal.wholeDigitLimit < Decimal.digitCount number.natAbs then none
  else some (.text (toString number))

/-- The value of a leaf type that a sent value means, if it means one. -/
def coerceLeaf? (type : TypeDefinition) (value : Value) : Option Value :=
  match type.kind, type.name, value with
  | .enum, _, .text name => if type.values.contains name then some value else none
  | .enum, _, _ => none
  | .scalar, "Int", .int number => int32? number
  | .scalar, "Int", .float number => (Decimal.wholeOf? number).bind int32?
  | .scalar, "Int", _ => none
  | .scalar, "Float", .int number =>
      let double := Float.ofInt number
      if isFinite double then some (.float double) else none
  | .scalar, "Float", .float number => if isFinite number then some value else none
  | .scalar, "Float", _ => none
  | .scalar, "String", .text _ => some value
  | .scalar, "String", _ => none
  | .scalar, "Boolean", .bool _ => some value
  | .scalar, "Boolean", _ => none
  | .scalar, "ID", .text _ => some value
  | .scalar, "ID", .int number => identifierText? number
  | .scalar, "ID", .float number => (Decimal.wholeOf? number).bind identifierText?
  | .scalar, "ID", _ => none
  | .scalar, _, _ => some value
  | _, _, _ => none

/-- The value of a leaf type that a literal spells, if it fits. -/
def leafLiteral? (type : TypeDefinition) (bindings : Entries Value) (literal : Literal) :
    Option Value :=
  if !literal.fitsLeaf type then none
  else
    match type.kind, type.name, literal with
    | .scalar, "Float", .int spelling =>
        (Decimal.floatOfSigned? spelling.toList).map .float
    | .scalar, "Float", .float spelling =>
        (Decimal.floatOfSigned? spelling.toList).map .float
    | .scalar, "ID", .int spelling => some (.text spelling)
    | _, _, _ => some (literal.value bindings)

/-- The entries in the order of the fields of an input, which are all required ones. -/
def inFieldOrder? (input : TypeDefinition) (entries : Entries Value) : Option Value :=
  (input.fields.foldlM (fun (ordered : Entries Value) (field : FieldDefinition) =>
    match entries.get? field.name with
    | some value => some (ordered ++ [(field.name, value)])
    | none => if field.type.isNonNull then none else some ordered) []).map .object

variable (system : TypeSystem)

/-- The leaf at the core of a type, and the value in its lists. -/
def coerceCore? (type : TypeExpr) (value : Value) : Option Value :=
  ((system.type? type.core).bind fun core => coerceLeaf? core value).map type.wrap

mutual

/-- The value of a type that a sent value means.  An object has no field that its type has not, and
lists and objects nest no deeper than the number says. -/
def Value.coerced? (depth : Nat) (type : TypeExpr) : Value → Option Value
  | .null => if type.isNonNull then none else some .null
  | .list items =>
      if type.isList then
        if depth = 0 then none
        else (Value.allCoerced? (depth - 1) type.itemType items).map .list
      else coerceCore? system type (.list items)
  | .object entries =>
      match system.input? type with
      | some input =>
          if depth = 0 then none
          else ((Value.entriesCoerced? (depth - 1) input entries).bind (inFieldOrder? input)).map
            type.wrap
      | none => coerceCore? system type (.object entries)
  | .bool flag => coerceCore? system type (.bool flag)
  | .int number => coerceCore? system type (.int number)
  | .float number => coerceCore? system type (.float number)
  | .text content => coerceCore? system type (.text content)

def Value.allCoerced? (depth : Nat) (type : TypeExpr) : List Value → Option (List Value)
  | [] => some []
  | item :: rest => do
      let first ← Value.coerced? depth type item
      let others ← Value.allCoerced? depth type rest
      some (first :: others)

def Value.entriesCoerced? (depth : Nat) (input : TypeDefinition) :
    List (String × Value) → Option (Entries Value)
  | [] => some []
  | (name, item) :: rest => do
      let field ← input.field? name
      let first ← Value.coerced? depth field.type item
      let others ← Value.entriesCoerced? depth input rest
      some ((name, first) :: others)

end

/-- The value of a literal at the leaf of a type. -/
def literalCore? (type : TypeExpr) (bindings : Entries Value) (literal : Literal) : Option Value :=
  ((system.type? type.core).bind fun core => leafLiteral? core bindings literal).map type.wrap

/-- Whether a literal is a variable that was not given. -/
def Literal.isMissing (bindings : Entries Value) : Literal → Bool
  | .variable name => !bindings.has name
  | _ => false

mutual

/-- The value of a type that a literal spells.  A variable stands for its value as it is. -/
def Literal.typed? (bindings : Entries Value) (type : TypeExpr) : Literal → Option Value
  | .variable name =>
      match bindings.get? name with
      | some .null => if type.isNonNull then none else some .null
      | found => found
  | .null => if type.isNonNull then none else some .null
  | .list items =>
      if type.isList then (Literal.allTyped? bindings type.itemType items).map .list
      else literalCore? system type bindings (.list items)
  | .object fields =>
      match system.input? type with
      | some input =>
          ((Literal.fieldsTyped? bindings input fields).bind (inFieldOrder? input)).map type.wrap
      | none => literalCore? system type bindings (.object fields)
  | literal => literalCore? system type bindings literal

def Literal.allTyped? (bindings : Entries Value) (type : TypeExpr) :
    List Literal → Option (List Value)
  | [] => some []
  | item :: rest => do
      let first ←
        if item.isMissing bindings then if type.isNonNull then none else some .null
        else Literal.typed? bindings type item
      let others ← Literal.allTyped? bindings type rest
      some (first :: others)

/-- The fields that the input has and that are given; of several under one name the last one. -/
def Literal.fieldsTyped? (bindings : Entries Value) (input : TypeDefinition) :
    List (String × Literal) → Option (Entries Value)
  | [] => some []
  | (name, item) :: rest => do
      let others ← Literal.fieldsTyped? bindings input rest
      match input.field? name with
      | none => some others
      | some field =>
          if item.isMissing bindings || rest.any fun entry => entry.1 == name then some others
          else do
            let first ← Literal.typed? bindings field.type item
            some ((name, first) :: others)

end

/-- The values of the variables of an operation, with defaults for those not sent.  Nothing if one
of them does not fit its type. -/
def coerceVariables? (declarations : List VariableDeclaration) (sent : Entries Value) :
    Option (Entries Value) :=
  declarations.foldlM (fun (values : Entries Value) (declaration : VariableDeclaration) =>
    match sent.get? declaration.name, declaration.default with
    | some value, _ =>
        (Value.coerced? system nestingLimit declaration.type value).map
          (values.put declaration.name)
    | none, some literal =>
        (Literal.typed? system [] declaration.type literal).map (values.put declaration.name)
    | none, none => if declaration.type.isNonNull then none else some values) []

/-- The value of an argument: absent if it is not given, nothing if it is not fit. -/
def argumentValue? (bindings : Entries Value) (definition : ArgumentDefinition)
    (given : Arguments) : Option (Option Value) :=
  let absent : Option (Option Value) := if definition.isRequired then none else some none
  match given.reverse.lookup definition.name with
  | none => absent
  | some literal =>
      if literal.isMissing bindings then absent
      else (Literal.typed? system bindings definition.type literal).map some

/-- The values of the given arguments of a field or a directive, in the order of its definition. -/
def argumentValues? (bindings : Entries Value) (definitions : List ArgumentDefinition)
    (given : Arguments) : Option (Entries Value) :=
  definitions.foldlM (fun (values : Entries Value) (definition : ArgumentDefinition) =>
    (argumentValue? system bindings definition given).map fun
      | some value => values ++ [(definition.name, value)]
      | none => values) []

end GraphGateway.Graphql
