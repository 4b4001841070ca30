import GraphGateway.Graphql.Site

/-!
Fields under one response key.  They can be merged if they select the same field with the same
arguments, or stand on object types that no value has both of; in either case their types have the
same shape, and so have the fields selected in them.
-/
namespace GraphGateway.Graphql

/-- A field with what has to agree when fields share a key. -/
structure KeyedField where
  parent : Option TypeDefinition
  key : String
  name : String
  arguments : Arguments
  type : Option TypeExpr
  selections : List Selection

/-- The order of entries by their names. -/
def entryLe {α : Type} (first second : String × α) : Bool :=
  !decide (second.1 < first.1)

mutual

/-- The literal with the fields of its objects in order of names. -/
def Literal.sorted : Literal → Literal
  | .list items => .list (Literal.sortedItems items)
  | .object fields => .object ((Literal.sortedFields fields).mergeSort entryLe)
  | literal => literal

def Literal.sortedItems : List Literal → List Literal
  | [] => []
  | item :: rest => item.sorted :: Literal.sortedItems rest

def Literal.sortedFields : List (String × Literal) → List (String × Literal)
  | [] => []
  | (name, item) :: rest => (name, item.sorted) :: Literal.sortedFields rest

end

def sameArguments (first second : Arguments) : Bool :=
  (Literal.object first).sorted == (Literal.object second).sorted

variable (system : TypeSystem)

/-- The type of a field where keys are compared; the fields about types have none. -/
def comparedType (parent : Option TypeDefinition) (name : String) : Option TypeExpr :=
  (parent.bind (·.field? name)).map FieldDefinition.type

mutual

/-- The fields of a selection outside of fragments, and the fragments it spreads. -/
def Selection.keyed (parent : Option TypeDefinition) : Selection → List KeyedField × List String
  | .field key name arguments _ selections =>
      ([⟨parent, key.getD name, name, arguments, comparedType parent name, selections⟩], [])
  | .spread fragment _ => ([], [fragment])
  | .inline condition _ selections =>
      Selection.keyedOf (system.narrowed parent condition) selections

def Selection.keyedOf (parent : Option TypeDefinition) :
    List Selection → List KeyedField × List String
  | [] => ([], [])
  | selection :: rest =>
      let first := selection.keyed parent
      let others := Selection.keyedOf parent rest
      (first.1 ++ others.1, first.2 ++ others.2)

end

variable (document : Document)

/-- The fields of the fragments that can be reached from some names. -/
def fragmentFields : Nat → List String → List String → List KeyedField
  | 0, _, _ => []
  | _, [], _ => []
  | steps + 1, name :: pending, reached =>
      if reached.contains name then fragmentFields steps pending reached
      else
        match document.fragment? name with
        | none => fragmentFields steps pending reached
        | some fragment =>
            let (fields, names) :=
              Selection.keyedOf system (system.composite? fragment.condition) fragment.selections
            fields ++ fragmentFields steps (names ++ pending) (name :: reached)

/-- All fields of a selection set, those of fragments too. -/
def TypedSelections.fields (set : TypedSelections) : List KeyedField :=
  let (fields, names) := Selection.keyedOf system set.parent set.selections
  fields ++ fragmentFields system document (names.length + document.spreadCount + 1) names []

/-- Whether two types can never answer in one shape. -/
def shapesConflict : TypeExpr → TypeExpr → Bool
  | .list first, .list second => shapesConflict first second
  | .list _, _ => true
  | _, .list _ => true
  | .nonNull first, .nonNull second => shapesConflict first second
  | .nonNull _, _ => true
  | _, .nonNull _ => true
  | .named first, .named second =>
      let isLeaf (name : String) : Bool := (system.kind? name).any TypeKind.isLeaf
      (isLeaf first || isLeaf second) && first != second

/-- Whether no value has both types. -/
def areApart : Option TypeDefinition → Option TypeDefinition → Bool
  | some first, some second =>
      first.name != second.name && first.kind == .object && second.kind == .object
  | _, _ => false

/-- The selection set of a field. -/
def KeyedField.inner (field : KeyedField) : TypedSelections :=
  ⟨field.type.bind fun type => system.composite? type.core, field.selections⟩

/-- Whether two fields under one key can be merged.  Fuel bounds how deep selections nest. -/
def canMerge : Nat → Bool → KeyedField → KeyedField → Bool
  | 0, _, _, _ => false
  | fuel + 1, apart, first, second =>
      let apart := apart || areApart first.parent second.parent
      (apart || (first.name == second.name && sameArguments first.arguments second.arguments)) &&
      (match first.type, second.type with
        | some firstType, some secondType => !shapesConflict system firstType secondType
        | _, _ => true) &&
      (first.selections.isEmpty || second.selections.isEmpty ||
        ((first.inner system).fields system document).all fun one =>
          ((second.inner system).fields system document).all fun other =>
            one.key != other.key || canMerge fuel apart one other)

/-- Whether each two fields of a list under one key can be merged. -/
def allMerge (fuel : Nat) : List KeyedField → Bool
  | [] => true
  | field :: rest =>
      (rest.all fun other =>
          field.key != other.key || canMerge system document fuel false field other) &&
        allMerge fuel rest

/-- The number of fields in a document, which bounds how deep they nest. -/
def Document.fieldCount : Nat :=
  Selection.fieldCountOf ((document.operations.flatMap Operation.selections) ++
    document.fragments.flatMap Fragment.selections)

/-- Whether the fields of every selection set can be merged. -/
def Document.merges : Bool :=
  (document.sets system).all fun set =>
    allMerge system document (document.fieldCount + 1) (set.fields system document)

end GraphGateway.Graphql
