import GraphGateway.Graphql.Legality
import GraphGateway.Schema.Naming
import GraphGateway.Schema.Problem

/-!
The type system that clients see.  It has the declared types, and for every node type the inputs,
responses and root fields to read, create and update nodes.  With relationship properties it also
has connections with edges, inputs for the properties, and the lookup of any node by its identifier.

The types are offered one after another.  A type that is offered twice in one shape is there once;
two shapes under one name are a conflict, and so is a made type under a declared name.
-/
namespace GraphGateway.Schema

open Graphql

def nodeInterface : String := "Node"

def pageInfoName : String := "PageInfo"

def connectionEnding : String := "Connection"

/-- A type for the type system; a declared type may bear a declared name. -/
structure Offer where
  type : TypeDefinition
  declared : Bool := false

/-- The types accepted so far, and the names in conflict. -/
structure Registry where
  types : List TypeDefinition := []
  conflicts : List String := []

namespace Registry

def type? (registry : Registry) (name : String) : Option TypeDefinition :=
  registry.types.find? (·.name == name)

def accept (reserved : List String) (registry : Registry) (offer : Offer) : Registry :=
  let name := offer.type.name
  let conflict := { registry with conflicts := registry.conflicts ++ [name] }
  if reserved.contains name && !offer.declared then conflict
  else
    match registry.type? name with
    | none => { registry with types := registry.types ++ [offer.type] }
    | some type => if type = offer.type then registry else conflict

def ofOffers (reserved : List String) (offers : List Offer) : Registry :=
  offers.foldl (accept reserved) {}

end Registry

/-- A property as a field. -/
def PropertyField.definition (field : PropertyField) : FieldDefinition where
  name := field.name
  type := field.type.toExpr

/-- A property as a field that may be left out. -/
def PropertyField.optionalDefinition (field : PropertyField) : FieldDefinition where
  name := field.name
  type := field.type.asOptional.toExpr

def inputOffer (name : String) (fields : List FieldDefinition) : Offer :=
  { type := { kind := .input, name, fields } }

def objectOffer (name : String) (fields : List FieldDefinition) : Offer :=
  { type := { kind := .object, name, fields } }

def createInputName (typeName : String) : String := typeName ++ "CreateInput"

def updateInputName (typeName : String) : String := typeName ++ "UpdateInput"

def propertiesInputName (typeName : String) : String := typeName ++ "PropertiesInput"

def whereInputName (typeName : String) : String := typeName ++ "Where"

def updateConnectionInputName (typeName : String) : String := typeName ++ "UpdateConnectionInput"

def createFieldName (typeName : String) : String := "create" ++ pluralize typeName

def updateFieldName (typeName : String) : String := "update" ++ pluralize typeName

def createResponseName (typeName : String) : String :=
  "Create" ++ pluralize typeName ++ "MutationResponse"

def updateResponseName (typeName : String) : String :=
  "Update" ++ pluralize typeName ++ "MutationResponse"

/-- The interface of all nodes and the facts about a page. -/
def pagingOffers : List Offer :=
  [{ type :=
       { kind := .interface, name := nodeInterface, fields := [⟨"id", requiredType "ID", []⟩] } },
   objectOffer pageInfoName
     [⟨"hasNextPage", requiredType "Boolean", []⟩, ⟨"hasPreviousPage", requiredType "Boolean", []⟩,
      ⟨"startCursor", namedType "String", []⟩, ⟨"endCursor", namedType "String", []⟩]]

namespace PropertiesType

/-- The interface and its inputs.  Only the first input requires what the interface requires. -/
def offers (type : PropertiesType) : List Offer :=
  let fields := type.fields.map PropertyField.definition
  let optional := type.fields.map PropertyField.optionalDefinition
  [{ type := { kind := .interface, name := type.name, fields }, declared := true },
   inputOffer (createInputName type.name) fields,
   inputOffer (updateInputName type.name) optional,
   inputOffer (propertiesInputName type.name) optional]

end PropertiesType

namespace Model

variable (model : Model) (paged : Bool)

/-- The edge and the connection of a relationship. -/
def connectionOffers (node : NodeType) (relationship : Relationship) : List Offer :=
  let properties := model.propertiesOf? relationship
  let edge := edgeTypeName node.name relationship.name
  [{ type :=
       { kind := .object
         name := edge
         fields := [⟨"cursor", requiredType "String", []⟩,
             ⟨"node", requiredType relationship.relatedType, []⟩] ++
           match properties with
           | some type => type.fields.map PropertyField.definition
           | none => []
         interfaces := (properties.map PropertiesType.name).toList } },
   objectOffer (connectionTypeName node.name relationship.name)
     [⟨"edges", requiredList edge, []⟩, ⟨"pageInfo", requiredType pageInfoName, []⟩]]

/-- The field of a connection. -/
def connectionField (node : NodeType) (relationship : Relationship) : FieldDefinition where
  name := relationship.name ++ connectionEnding
  type := requiredType (connectionTypeName node.name relationship.name)
  arguments := [⟨"first", namedType "Int"⟩, ⟨"after", namedType "String"⟩]

/-- The fields of a relationship: the related nodes, and the connection if there is one. -/
def relationshipFields (node : NodeType) (relationship : Relationship) : List FieldDefinition :=
  { name := relationship.name, type := relationship.type.toExpr } ::
    if paged then [connectionField node relationship] else []

/-- The object type of a node type. -/
def nodeDefinition (node : NodeType) : TypeDefinition where
  kind := .object
  name := node.name
  fields := ⟨"id", requiredType "ID", []⟩ ::
    (node.fields.map PropertyField.definition ++
      node.relationships.flatMap (relationshipFields paged node))
  interfaces := if paged then [nodeInterface] else []

/-- The filter of a node type: its identifier and its properties that are no lists. -/
def whereOffer (node : NodeType) : Offer :=
  inputOffer (whereInputName node.name)
    (⟨"id", namedType "ID", []⟩ ::
      (node.fields.filter (!·.type.isList)).map PropertyField.optionalDefinition)

def fieldInputName (node : NodeType) (relationship : Relationship) : String :=
  relationshipInputName node.name relationship.name "FieldInput"

/-- The inputs to create and to connect related nodes. -/
def fieldInputOffers (node : NodeType) (relationship : Relationship) : List Offer :=
  let properties : List FieldDefinition :=
    match model.offeredProperties? paged relationship with
    | some type => [⟨"properties", namedType (propertiesInputName type.name), []⟩]
    | none => []
  let create := relationshipInputName node.name relationship.name "CreateFieldInput"
  let connect := relationshipInputName node.name relationship.name "ConnectFieldInput"
  [inputOffer create
     (⟨"node", requiredType (createInputName relationship.relatedType), []⟩ :: properties),
   inputOffer connect
     (⟨"where", requiredType (whereInputName relationship.relatedType), []⟩ :: properties),
   inputOffer (fieldInputName node relationship)
     [⟨"create", optionalList create, []⟩, ⟨"connect", optionalList connect, []⟩]]

/-- The relationships of a node type as fields of its inputs. -/
def relationshipInputs (node : NodeType) : List FieldDefinition :=
  node.relationships.map fun relationship =>
    ⟨relationship.name, namedType (fieldInputName node relationship), []⟩

def createOffers (node : NodeType) : List Offer :=
  node.relationships.flatMap (model.fieldInputOffers paged node) ++
    [inputOffer (createInputName node.name)
      (⟨"id", namedType "ID", []⟩ ::
        (node.fields.map PropertyField.definition ++ relationshipInputs node))]

/-- Whether a node type has anything to update. -/
def isUpdatable (node : NodeType) : Bool :=
  !(node.fields.isEmpty && node.relationships.isEmpty)

def updateOffers (node : NodeType) : List Offer :=
  node.relationships.flatMap (model.fieldInputOffers paged node) ++
    if isUpdatable node then
      [inputOffer (updateInputName node.name)
        (node.fields.map PropertyField.optionalDefinition ++ relationshipInputs node)]
    else []

def connectionEntryName (node : NodeType) (relationship : Relationship) : String :=
  relationshipInputName node.name relationship.name "UpdateConnectionInput"

/-- The relationships whose properties can be updated, each with them. -/
def updatableConnections (node : NodeType) : List (Relationship × PropertiesType) :=
  node.relationships.filterMap fun relationship =>
    (model.offeredProperties? paged relationship).map (relationship, ·)

/-- The inputs to update properties of relationships. -/
def updateConnectionOffers (node : NodeType) : List Offer :=
  let connections := model.updatableConnections paged node
  (connections.map fun (relationship, properties) =>
    inputOffer (connectionEntryName node relationship)
      [⟨"where", requiredType (whereInputName relationship.relatedType), []⟩,
       ⟨"properties", requiredType (updateInputName properties.name), []⟩]) ++
  if connections.isEmpty then []
  else
    [inputOffer (updateConnectionInputName node.name)
      (connections.map fun (relationship, _) =>
        ⟨relationship.name, optionalList (connectionEntryName node relationship), []⟩)]

def responseOffers (node : NodeType) : List Offer :=
  let fields : List FieldDefinition :=
    [⟨pluralFieldName node.name, requiredList node.name, []⟩]
  [objectOffer (createResponseName node.name) fields,
   objectOffer (updateResponseName node.name) fields]

/-- All types made for a node type. -/
def nodeOffers (node : NodeType) : List Offer :=
  (if paged then node.relationships.flatMap (model.connectionOffers node) else []) ++
    [{ type := nodeDefinition paged node, declared := true }, whereOffer node] ++
    model.createOffers paged node ++ model.updateOffers paged node ++
    model.updateConnectionOffers paged node ++ responseOffers node

/-- The root field that lists nodes. -/
def listField (node : NodeType) : FieldDefinition where
  name := pluralFieldName node.name
  type := requiredList node.name
  arguments := [⟨"where", namedType (whereInputName node.name)⟩]

/-- The root field that looks up a node. -/
def lookupField : FieldDefinition where
  name := "node"
  type := namedType nodeInterface
  arguments := [⟨"id", requiredType "ID"⟩]

def createField (node : NodeType) : FieldDefinition where
  name := createFieldName node.name
  type := requiredType (createResponseName node.name)
  arguments := [⟨"input", requiredList (createInputName node.name)⟩]

def updateField (node : NodeType) : FieldDefinition where
  name := updateFieldName node.name
  type := requiredType (updateResponseName node.name)
  arguments := ⟨"where", namedType (whereInputName node.name)⟩ ::
    ((if isUpdatable node then [⟨"update", namedType (updateInputName node.name)⟩] else []) ++
      if (model.updatableConnections paged node).isEmpty then []
      else [⟨"updateConnection", namedType (updateConnectionInputName node.name)⟩])

/-- The root types; without node types nothing can be mutated. -/
def rootOffers : List Offer :=
  objectOffer TypeSystem.queryName
    (model.nodes.map listField ++ if paged then [lookupField] else []) ::
  if model.nodes.isEmpty then []
  else
    [objectOffer TypeSystem.mutationName
      (model.nodes.flatMap fun node => [createField node, model.updateField paged node])]

/-- Every type of the type system, in order. -/
def offers : List Offer :=
  (if paged then pagingOffers else []) ++
    (model.scalars.map fun name => { type := { kind := .scalar, name }, declared := true }) ++
    (model.enums.map fun enum =>
      { type := { kind := .enum, name := enum.name, values := enum.values }, declared := true }) ++
    (if paged then model.properties.flatMap PropertiesType.offers else []) ++
    model.nodes.flatMap (model.nodeOffers paged) ++ model.rootOffers paged

/-- The declared names, which no made type may bear. -/
def reservedNames : List String :=
  model.nodes.map NodeType.name ++ model.properties.map PropertiesType.name ++
    model.enums.map EnumType.name ++ model.scalars

/-- The type system of a model, unless names are in conflict. -/
def augmented : Except (List Problem) TypeSystem :=
  let registry := Registry.ofOffers model.reservedNames (model.offers paged)
  if registry.conflicts.isEmpty then .ok ⟨registry.types⟩
  else .error (registry.conflicts.map fun name => .nameConflict name none)

end Model

end GraphGateway.Schema
