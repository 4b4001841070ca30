import GraphGateway.Graphql.LiteralValue
import GraphGateway.Schema.Problem

/-!
The graph model that a document declares.  Object types are node types, interfaces hold the
properties of relationships, and each field of a node type plays one role: identifier, property or
relationship, or it is refused with problems.  Refused fields are left out of the model.
-/
namespace GraphGateway.Schema

open Graphql (CompositeDeclaration Definition Directive Document FieldDeclaration directive?)

def builtinScalars : List String := ["ID", "String", "Int", "Float", "Boolean"]

def rootTypeNames : List String := ["Query", "Mutation", "Subscription"]

def relationshipMark : String := "relationship"

def propertiesMark : String := "relationshipProperties"

def identifierMark : String := "identifier"

/-- The names that fields can refer to. -/
structure DeclaredNames where
  nodes : List String
  /-- The scalars and enums, built in or declared. -/
  leaves : List String
  interfaces : List String

/-- What a field of a node type is. -/
inductive FieldRole where
  | identifier (identifier : Identifier)
  | property (field : PropertyField)
  | relationship (relationship : Relationship)
  | refused (problems : List Problem)
  /-- A relationship whose properties are given as a list or an object, which stops the reading. -/
  | unreadable

/-- A field with its role, and whether it is marked as an identifier. -/
structure FieldReading where
  name : String
  marked : Bool := false
  role : FieldRole

/-- A name of interface that the marking of a relationship gives. -/
inductive PropertiesName where
  | absent
  | declared (name : String)
  | undeclared (value : Value)
  | unreadable

def PropertiesName.ofValue (names : DeclaredNames) : Value → PropertiesName
  | .null => .absent
  | .text name =>
      if names.interfaces.contains name then .declared name else .undeclared (.text name)
  | .list _ => .unreadable
  | .object _ => .unreadable
  | value => .undeclared value

def directionOf? : Value → Option Direction
  | .text word => Direction.ofText? word
  | _ => none

/-- The role of a field that is marked as a relationship. -/
def FieldRole.ofRelationship (names : DeclaredNames) (typeName fieldName : String)
    (type : TypeReference) (mark : Directive) : FieldRole :=
  match mark.argument "type" with
  | .text label =>
      if label.isEmpty then
        .refused [.directive typeName fieldName "@relationship requires a non-empty 'type'"]
      else
        let direction := mark.argument "direction"
        match directionOf? direction with
        | none =>
            .refused [.directive typeName fieldName
              s!"@relationship direction must be IN or OUT, got {direction.shown}"]
        | some direction =>
            let strange : List Problem :=
              if names.nodes.contains type.name then []
              else [.reference typeName fieldName (.text type.name) none]
            match PropertiesName.ofValue names (mark.argument "properties"), strange with
            | .unreadable, _ => .unreadable
            | .undeclared value, _ =>
                .refused (strange ++ [.reference typeName fieldName value none])
            | .absent, [] =>
                .relationship
                  { name := fieldName, type, relatedType := type.name, direction, label }
            | .declared name, [] =>
                .relationship
                  { name := fieldName, type, relatedType := type.name, direction, label,
                    properties := some name }
            | _, _ => .refused strange
  | _ => .refused [.directive typeName fieldName "@relationship requires a non-empty 'type'"]

/-- The role of a field that is no relationship: a property if its type is a scalar or an enum. -/
def FieldRole.ofLeaf (names : DeclaredNames) (typeName fieldName : String) (type : TypeReference) :
    FieldRole :=
  if names.leaves.contains type.name then
    .property { name := fieldName, type, stored := fieldName }
  else .refused [.reference typeName fieldName (.text type.name) none]

/-- The property that a field stores its identifier under, if it is marked as one and says so. -/
def storedIdentifier (field : FieldDeclaration) : Option String :=
  (directive? field.directives identifierMark).map fun mark =>
    match mark.argument "property" with
    | .text name => name
    | _ => ""

def FieldReading.ofUnsupported (typeName : String) (field : FieldDeclaration) : FieldReading where
  name := field.name
  role := .refused [.unsupportedType typeName field.name TypeReference.nestedListReason]

/-- A field of a node type. -/
def FieldReading.ofNodeField (names : DeclaredNames) (typeName : String)
    (field : FieldDeclaration) : FieldReading :=
  match TypeReference.ofExpr? field.type with
  | none => .ofUnsupported typeName field
  | some type =>
      let stored := storedIdentifier field
      let role :=
        if field.name = identifierName then
          let own := stored.getD ""
          FieldRole.identifier
            { stored := if own.isEmpty then identifierName else own, declared := some type }
        else
          match directive? field.directives relationshipMark with
          | some mark => .ofRelationship names typeName field.name type mark
          | none =>
              if names.nodes.contains type.name then
                .refused [.unmarkedNode typeName field.name type.name]
              else .ofLeaf names typeName field.name type
      { name := field.name, marked := stored.isSome, role }

/-- A field of an interface. -/
def FieldReading.ofInterfaceField (names : DeclaredNames) (typeName : String)
    (field : FieldDeclaration) : FieldReading :=
  match TypeReference.ofExpr? field.type with
  | none => .ofUnsupported typeName field
  | some type =>
      { name := field.name
        marked := (storedIdentifier field).isSome
        role := .ofLeaf names typeName field.name type }

namespace FieldReading

def property? (reading : FieldReading) : Option PropertyField :=
  match reading.role with
  | .property field => some field
  | _ => none

def relationship? (reading : FieldReading) : Option Relationship :=
  match reading.role with
  | .relationship relationship => some relationship
  | _ => none

def identifier? (reading : FieldReading) : Option Identifier :=
  match reading.role with
  | .identifier identifier => some identifier
  | _ => none

def problems (reading : FieldReading) : List Problem :=
  match reading.role with
  | .refused problems => problems
  | _ => []

def isUnreadable (reading : FieldReading) : Bool :=
  match reading.role with
  | .unreadable => true
  | _ => false

/-- The names of the marked fields. -/
def markedNames (readings : List FieldReading) : List String :=
  (readings.filter FieldReading.marked).map FieldReading.name

end FieldReading

/-- The node type whose fields play these roles; of several identifiers the last one counts. -/
def NodeType.ofReadings (name : String) (readings : List FieldReading) : NodeType where
  name
  identifier := (readings.filterMap FieldReading.identifier?).getLast?.getD {}
  fields := readings.filterMap FieldReading.property?
  relationships := readings.filterMap FieldReading.relationship?
  marked := FieldReading.markedNames readings

def PropertiesType.ofReadings (name : String) (readings : List FieldReading) : PropertiesType where
  name
  fields := readings.filterMap FieldReading.property?
  marked := FieldReading.markedNames readings

/-- A model with the problems of the document it was read from, and what was passed over. -/
structure Declared where
  model : Model
  problems : List Problem
  warnings : List String

namespace Declared

/-- The object types that are no root types. -/
def objects (document : Document) : List CompositeDeclaration :=
  document.filterMap fun
    | .object declaration =>
        if rootTypeNames.contains declaration.name then none else some declaration
    | _ => none

/-- The interfaces by name; a later one of a name takes the place of an earlier one. -/
def interfaces (document : Document) : Entries CompositeDeclaration :=
  Entries.ofPairs (document.filterMap fun
    | .interface declaration => some (declaration.name, declaration)
    | _ => none)

def enums (document : Document) : List EnumType :=
  document.filterMap fun
    | .enum declaration => some { name := declaration.name, values := declaration.values }
    | _ => none

def scalars (document : Document) : List String :=
  document.filterMap fun
    | .scalar name => some name
    | _ => none

def unsupportedWarning (kind : String) : String :=
  s!"Ignoring unsupported definition of kind '{kind}'"

/-- What is said of a definition that is passed over. -/
def warning? : Definition → Option String
  | .object declaration =>
      if rootTypeNames.contains declaration.name then
        some s!"Ignoring root type '{declaration.name}' declared in base schema"
      else none
  | .operation _ => some (unsupportedWarning "operation_definition")
  | .fragment _ => some (unsupportedWarning "fragment_definition")
  | .other declaration => some (unsupportedWarning declaration.kind)
  | _ => none

def names (document : Document) : DeclaredNames where
  nodes := (objects document).map CompositeDeclaration.name
  leaves := builtinScalars ++ (enums document).map EnumType.name ++ scalars document
  interfaces := (interfaces document).keys

/-- Whether an interface holds properties: a relationship names it, or it is marked so. -/
def holdsProperties (nodes : List NodeType) (interface : CompositeDeclaration) : Bool :=
  (nodes.any fun node =>
    node.relationships.any fun relationship => relationship.properties == some interface.name) ||
  (directive? interface.directives propertiesMark).isSome

/-- Reads the model of a document; nothing if a relationship cannot be read. -/
def ofDocument? (document : Document) : Option Declared :=
  let names := names document
  let nodeReadings := (objects document).map fun declaration =>
    (declaration.name, declaration.fields.map (.ofNodeField names declaration.name))
  if nodeReadings.any fun entry => entry.2.any FieldReading.isUnreadable then none
  else
    let nodes := nodeReadings.map fun (name, readings) => NodeType.ofReadings name readings
    let (kept, passed) := ((interfaces document).map Prod.snd).partition (holdsProperties nodes)
    let interfaceReadings := kept.map fun declaration =>
      (declaration.name, declaration.fields.map (.ofInterfaceField names declaration.name))
    some
      { model :=
          { nodes
            properties := interfaceReadings.map fun (name, readings) =>
              PropertiesType.ofReadings name readings
            enums := enums document
            scalars := scalars document }
        problems := (nodeReadings ++ interfaceReadings).flatMap fun (_, readings) =>
          readings.flatMap FieldReading.problems
        warnings := document.filterMap warning? ++ passed.map fun declaration =>
          s!"Ignoring interface '{declaration.name}': not used as relationship properties" }

end Declared

end GraphGateway.Schema
