import GraphGateway.Schema.TypeReference

/-!
The graph that a base schema declares: node types with an identifier, properties and relationships,
and the interfaces whose fields are stored on relationships.  A relationship names its related type
and its properties; the model resolves the names.
-/
namespace GraphGateway.Schema

inductive Direction where
  | incoming
  | outgoing
  deriving DecidableEq, Repr, Inhabited

namespace Direction

def text : Direction → String
  | incoming => "IN"
  | outgoing => "OUT"

def opposite : Direction → Direction
  | incoming => outgoing
  | outgoing => incoming

@[simp] theorem opposite_opposite (direction : Direction) :
    direction.opposite.opposite = direction := by
  cases direction <;> rfl

def ofText? : String → Option Direction
  | "IN" => some incoming
  | "OUT" => some outgoing
  | _ => none

end Direction

/-- A field that holds a scalar or an enum value and is stored as a property. -/
structure PropertyField where
  name : String
  type : TypeReference
  /-- The name that the property is stored under. -/
  stored : String
  deriving DecidableEq, Repr, Inhabited

def PropertyField.required (field : PropertyField) : Bool := field.type.nonNull

def identifierName : String := "id"

/-- The identifier of a node type, and the type it is declared with if it is declared. -/
structure Identifier where
  stored : String := identifierName
  declared : Option TypeReference := none
  deriving DecidableEq, Repr, Inhabited

/-- An interface whose fields are stored on relationships. -/
structure PropertiesType where
  name : String
  fields : List PropertyField := []
  /-- The fields marked as identifiers, which no relationship has. -/
  marked : List String := []
  deriving DecidableEq, Repr, Inhabited

structure Relationship where
  name : String
  type : TypeReference
  relatedType : String
  direction : Direction
  /-- The relationship type in the graph. -/
  label : String
  properties : Option String := none
  deriving DecidableEq, Repr, Inhabited

structure NodeType where
  name : String
  identifier : Identifier := {}
  fields : List PropertyField := []
  relationships : List Relationship := []
  /-- The fields marked as identifiers. -/
  marked : List String := []
  deriving DecidableEq, Repr, Inhabited

structure EnumType where
  name : String
  values : List String
  deriving DecidableEq, Repr, Inhabited

structure Model where
  nodes : List NodeType := []
  properties : List PropertiesType := []
  enums : List EnumType := []
  scalars : List String := []
  deriving DecidableEq, Repr, Inhabited

namespace PropertiesType

def field? (type : PropertiesType) (name : String) : Option PropertyField :=
  type.fields.find? (·.name == name)

def requiredFields (type : PropertiesType) : List PropertyField :=
  type.fields.filter PropertyField.required

end PropertiesType

namespace NodeType

/-- The identifier as a field. -/
def identifierField (node : NodeType) : PropertyField where
  name := identifierName
  type := { name := "ID", nonNull := true }
  stored := node.identifier.stored

/-- The identifier or the property with a name. -/
def field? (node : NodeType) (name : String) : Option PropertyField :=
  if name = identifierName then some node.identifierField
  else node.fields.find? (·.name == name)

def relationship? (node : NodeType) (name : String) : Option Relationship :=
  node.relationships.find? (·.name == name)

end NodeType

/-- What a name was looked up for in vain. -/
inductive LookupFault where
  | unknownNode (name : String)
  | unknownRelationship (typeName fieldName : String)
  deriving DecidableEq, Repr

def LookupFault.message : LookupFault → String
  | .unknownNode name => s!"Unknown node type '{name}'"
  | .unknownRelationship typeName fieldName =>
      s!"{typeName} has no relationship field '{fieldName}'"

namespace Model

variable (model : Model)

/-- The node type with a name; of several the last one. -/
def node? (name : String) : Option NodeType :=
  model.nodes.reverse.find? (·.name == name)

def hasNode (name : String) : Bool :=
  (model.node? name).isSome

def node (name : String) : Except LookupFault NodeType :=
  match model.node? name with
  | some node => .ok node
  | none => .error (.unknownNode name)

def relationship (typeName fieldName : String) : Except LookupFault Relationship := do
  let node ← model.node typeName
  match node.relationship? fieldName with
  | some relationship => pure relationship
  | none => throw (.unknownRelationship typeName fieldName)

def related (relationship : Relationship) : Except LookupFault NodeType :=
  model.node relationship.relatedType

/-- The properties type with a name; of several the last one. -/
def propertiesType? (name : String) : Option PropertiesType :=
  model.properties.reverse.find? (·.name == name)

def propertiesOf? (relationship : Relationship) : Option PropertiesType :=
  relationship.properties.bind model.propertiesType?

/-- The properties of a relationship, if properties are offered. -/
def offeredProperties? (offered : Bool) (relationship : Relationship) : Option PropertiesType :=
  if offered then model.propertiesOf? relationship else none

/-- A relationship field with the name of its node type. -/
structure End where
  typeName : String
  fieldName : String
  deriving DecidableEq, Repr

def End.text (first : End) : String := s!"{first.typeName}.{first.fieldName}"

/-- Whether a candidate on the related type is the other end of a relationship: it leads back to the
declaring type under the same label in the opposite direction, and is not that field itself. -/
def isOtherEnd (declaring : End) (relationship : Relationship) (related : NodeType)
    (candidate : Relationship) : Bool :=
  !(related.name = declaring.typeName && candidate.name = declaring.fieldName) &&
    candidate.relatedType = declaring.typeName && candidate.label = relationship.label &&
    candidate.direction = relationship.direction.opposite

/-- The first other end of a relationship field that is declared. -/
def paired (declaring : End) : Except LookupFault (Option End) := do
  let relationship ← model.relationship declaring.typeName declaring.fieldName
  match model.node? relationship.relatedType with
  | none => pure none
  | some related =>
      pure ((related.relationships.find? (isOtherEnd declaring relationship related)).map
        fun candidate => ⟨related.name, candidate.name⟩)

/-- Every relationship field with its node type, in order. -/
def ends : List End :=
  model.nodes.flatMap fun node =>
    node.relationships.map fun relationship => ⟨node.name, relationship.name⟩

/-- Pairs each end with its other end, passing over the ends already in a pair. -/
def pairsFrom (seen : List End) : List End → Except LookupFault (List (End × End))
  | [] => .ok []
  | first :: rest =>
      if seen.contains first then pairsFrom seen rest
      else
        match model.paired first with
        | .error fault => .error fault
        | .ok none => pairsFrom seen rest
        | .ok (some other) =>
            (pairsFrom (other :: first :: seen) rest).map ((first, other) :: ·)

/-- Every declared pair of ends once, in order of the first end. -/
def relationshipPairs : Except LookupFault (List (End × End)) :=
  model.pairsFrom [] model.ends

end Model

end GraphGateway.Schema
