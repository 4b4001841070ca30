import GraphGateway.Graphql.Coercion
import GraphGateway.Graphql.Merging
import GraphGateway.Request.Argument
import GraphGateway.Request.Selection
import GraphGateway.Schema.Augmented

/-!
Reading what an operation asks for.  Fields under one key are taken together, fragments apply where
their condition holds of the type at hand, and selections that are left out by a condition are
passed over.
-/
namespace GraphGateway.Request

open Graphql (Arguments Directive Document FieldDefinition OperationKind TypeDefinition TypeSystem
  argumentValues? directive?)
open Schema (Model NodeType connectionEnding connectionTypeName edgeTypeName pluralFieldName)

/-- What requests are read against. -/
structure Surface where
  model : Model
  types : TypeSystem

/-- One selection of a field. -/
structure Selected where
  name : String
  arguments : Arguments
  selections : List Graphql.Selection

/-- Fields by their keys in order, and the fragments already seen. -/
structure Collected where
  fields : List (String × List Selected) := []
  seen : List String := []

/-- Puts a field behind the others under its key. -/
def Collected.add (collected : Collected) (key : String) (field : Selected) : Collected :=
  { collected with
    fields := Entries.put collected.fields key
      ((Entries.get? collected.fields key).getD [] ++ [field]) }

/-- A document with the values of its variables. -/
structure Context where
  surface : Surface
  document : Document
  bindings : Entries Value

namespace Context

variable (context : Context)

def argumentsOf (definition : FieldDefinition) (given : Arguments) :
    Except Failure (Entries Value) :=
  match argumentValues? context.surface.types context.bindings definition.arguments given with
  | some values => .ok values
  | none => .error .argument

/-- The flag that a directive gives, if it is there. -/
def flag? (directives : List Directive) (name : String) : Except Failure (Option Value) :=
  match directive? directives name with
  | none => .ok none
  | some directive =>
      match argumentValues? context.surface.types context.bindings
          [⟨"if", Graphql.requiredType "Boolean"⟩] directive.arguments with
      | some values => .ok (values.get? "if")
      | none => .error .argument

/-- Whether a selection is neither skipped nor left out. -/
def isIncluded (directives : List Directive) : Except Failure Bool := do
  let skip ← context.flag? directives "skip"
  match skip with
  | some (.bool true) => pure false
  | _ =>
      let keep ← context.flag? directives "include"
      match keep with
      | some (.bool false) => pure false
      | _ => pure true

/-- Whether a condition holds of a type. -/
def applies (type : TypeDefinition) : Option String → Bool
  | none => true
  | some condition =>
      match context.surface.types.type? condition with
      | some wanted => TypeSystem.admits wanted type
      | none => false

mutual

/-- Collects a selection; `spread` collects what a fragment selects. -/
def visit (spread : String → Collected → Except Failure Collected) (type : TypeDefinition)
    (collected : Collected) : Graphql.Selection → Except Failure Collected
  | .field key name arguments directives selections => do
      if ← context.isIncluded directives then
        pure (collected.add (key.getD name) { name, arguments, selections })
      else pure collected
  | .inline condition directives selections => do
      if (← context.isIncluded directives) && context.applies type condition then
        visitAll spread type collected selections
      else pure collected
  | .spread fragment directives => do
      if (← context.isIncluded directives) && !collected.seen.contains fragment then
        spread fragment { collected with seen := fragment :: collected.seen }
      else pure collected

def visitAll (spread : String → Collected → Except Failure Collected) (type : TypeDefinition)
    (collected : Collected) : List Graphql.Selection → Except Failure Collected
  | [] => .ok collected
  | selection :: rest => do
      let collected ← visit spread type collected selection
      visitAll spread type collected rest

end

/-- Collects what a fragment selects.  A fragment is seen once, so that its depth is bounded by the
number of fragments. -/
def spread (type : TypeDefinition) : Nat → String → Collected → Except Failure Collected
  | 0, _, collected => .ok collected
  | depth + 1, name, collected =>
      match context.document.fragment? name with
      | some fragment =>
          if context.applies type (some fragment.condition) then
            context.visitAll (spread type depth) type collected fragment.selections
          else .ok collected
      | none => .ok collected

/-- The fields that some selection sets select on a type, by their keys. -/
def collect (type : TypeDefinition) (sets : List (List Graphql.Selection)) :
    Except Failure (List (String × List Selected)) := do
  let depth := context.document.fragments.length + 1
  let collected ← context.visitAll (context.spread type depth) type {} sets.flatten
  pure collected.fields

/-- The fields selected in some fields. -/
def subfields (type : TypeDefinition) (fields : List Selected) :
    Except Failure (List (String × List Selected)) :=
  context.collect type (fields.map Selected.selections)

/-- The first of the fields under a key. -/
def firstOf (fields : List Selected) : Selected :=
  fields.headD ⟨"", [], []⟩

def objectType (name : String) : Except Failure TypeDefinition :=
  match context.surface.types.type? name with
  | some type =>
      if type.kind = .object then .ok type
      else Failure.unbuildable s!"'{name}' is not an object type" none
  | none => Failure.unbuildable s!"'{name}' is not an object type" none

/-- The arguments of a field of a type. -/
def fieldArguments (type : TypeDefinition) (field : Selected) : Except Failure (Entries Value) :=
  match type.field? field.name with
  | some definition => context.argumentsOf definition field.arguments
  | none => .error (.missingKey field.name)

/-- The relationship that a connection field pages over. -/
def connectionOf? (node : NodeType) (name : String) : Option Schema.Relationship :=
  let chars := name.toList
  let ending := connectionEnding.toList
  if chars.drop (chars.length - ending.length) = ending then
    node.relationship? (String.ofList (chars.take (chars.length - ending.length)))
  else none

/-- The leaves selected on the facts about a page. -/
def pageInfoFields (fields : List Selected) : Except Failure (List Leaf) := do
  match context.surface.types.type? Schema.pageInfoName with
  | none => .error (.missingKey Schema.pageInfoName)
  | some type =>
      let subfields ← context.subfields type fields
      pure (subfields.map fun (key, fields) => ⟨key, (firstOf fields).name⟩)

/-- Reads the fields of an edge; `readNode` reads those of its node. -/
def edgeFields (readNode : String → List Selected → Except Failure (List NodeField))
    (edgeType : TypeDefinition) (relatedType : String) (fields : List Selected) :
    Except Failure (List EdgeField) := do
  let subfields ← context.subfields edgeType fields
  subfields.mapM fun (key, fields) => do
    let name := (firstOf fields).name
    if name = "node" then
      pure (.node key relatedType (← readNode relatedType fields))
    else pure (.leaf ⟨key, name⟩)

/-- Reads a connection field. -/
def connection (readNode : String → List Selected → Except Failure (List NodeField))
    (type : TypeDefinition) (node : NodeType) (relationship : Schema.Relationship) (key : String)
    (fields : List Selected) : Except Failure NodeField := do
  let given ← context.fieldArguments type (firstOf fields)
  let connectionType ← context.objectType (connectionTypeName node.name relationship.name)
  let edgeType ← context.objectType (edgeTypeName node.name relationship.name)
  let subfields ← context.subfields connectionType fields
  let selected ← subfields.mapM fun (inner, fields) => do
    let name := (firstOf fields).name
    if name = Graphql.typenameName then pure (ConnectionField.leaf ⟨inner, name⟩)
    else if name = "edges" then
      pure (.edges inner (← context.edgeFields readNode edgeType relationship.relatedType fields))
    else if name = "pageInfo" then pure (.pageInfo inner (← context.pageInfoFields fields))
    else Failure.unbuildable s!"unknown field '{name}' on {connectionType.name}" (some inner)
  pure (.connection key relationship.name ((given.get? "first").getD .null)
    ((given.get? "after").getD .null) selected)

/-- Reads what some fields select on a node type.  Fuel bounds how deep fields nest; fields that do
not end spread themselves. -/
def nodeFields : Nat → String → List Selected → Except Failure (List NodeField)
  | 0, _, _ => .error .endless
  | depth + 1, typeName, fields => do
      let type ← context.objectType typeName
      let node ← Failure.ofLookup (context.surface.model.node typeName)
      let subfields ← context.subfields type fields
      subfields.mapM fun (key, fields) => do
        let name := (firstOf fields).name
        if name = Graphql.typenameName || (node.field? name).isSome then
          pure (.leaf ⟨key, name⟩)
        else
          match node.relationship? name with
          | some relationship =>
              let inner ← nodeFields depth relationship.relatedType fields
              pure (.relationship key name relationship.relatedType inner)
          | none =>
              match connectionOf? node name with
              | some relationship =>
                  context.connection (nodeFields depth) type node relationship key fields
              | none => Failure.unbuildable s!"unknown field '{name}' on {typeName}" (some key)

/-- A bound for how deep fields nest: on the way to a field no other comes twice on one node type.
-/
def depthBound : Nat :=
  (context.document.fieldCount + 1) * (context.surface.model.nodes.length + 1)

def nodeSelection (typeName : String) (fields : List Selected) : Except Failure NodeSelection := do
  let inner ← context.nodeFields context.depthBound typeName fields
  pure ⟨typeName, inner⟩

/-- Reads what some fields select on the answer to a mutation. -/
def responseSelection (responseName typeName : String) (fields : List Selected) :
    Except Failure ResponseSelection := do
  let type ← context.objectType responseName
  let subfields ← context.subfields type fields
  let selected ← subfields.mapM fun (key, fields) => do
    let name := (firstOf fields).name
    if name = Graphql.typenameName then pure (ResponseField.leaf ⟨key, name⟩)
    else if name = pluralFieldName typeName then
      pure (.nodes key (← context.nodeSelection typeName fields))
    else Failure.unbuildable s!"unknown field '{name}' on {type.name}" (some key)
  pure ⟨type.name, selected⟩

end Context

/-- What a root field does with the nodes of a type. -/
inductive RootAction where
  | lookup
  | list (node : NodeType)
  | create (node : NodeType)
  | update (node : NodeType)

/-- What a root field of a model does.  Of several node types with one field the last one has it. -/
def Surface.action? (surface : Surface) (kind : OperationKind) (name : String) :
    Option RootAction :=
  let latest (field : String → String) : Option NodeType :=
    surface.model.nodes.reverse.find? fun node => field node.name == name
  match kind with
  | .query =>
      match latest pluralFieldName with
      | some node => some (.list node)
      | none => if name = "node" then some .lookup else none
  | .mutation =>
      match latest Schema.createFieldName, latest Schema.updateFieldName with
      | some node, _ => some (.create node)
      | none, some node => some (.update node)
      | none, none => none
  | .subscription => none

namespace Context

variable (context : Context)

/-- Reads one root field. -/
def rootField (kind : OperationKind) (root : TypeDefinition) (key : String)
    (fields : List Selected) : Except Failure RootField := do
  let first := firstOf fields
  if first.name = Graphql.typenameName then pure (.typename key root.name)
  else
    match context.surface.action? kind first.name with
    | none => Failure.unbuildable s!"unsupported root field '{first.name}'" (some key)
    | some action =>
        let given ← context.fieldArguments root first
        match action with
        | .lookup =>
            match given.get? "id" with
            | none => .error (.missingKey "id")
            | some id =>
                let variants ← context.surface.model.nodes.mapM fun node =>
                  context.nodeSelection node.name fields
                pure (.lookup key id variants)
        | .list node =>
            let selection ← context.nodeSelection node.name fields
            pure (.list key node.name selection (orEmpty (given.get? "where")))
        | .create node =>
            let response ←
              context.responseSelection (Schema.createResponseName node.name) node.name fields
            let inputs ← itemsOf ((given.get? "input").getD .null)
            pure (.create key node.name inputs response)
        | .update node =>
            let response ←
              context.responseSelection (Schema.updateResponseName node.name) node.name fields
            pure (.update key node.name response (orEmpty (given.get? "where"))
              (orEmpty (given.get? "update")) (orEmpty (given.get? "updateConnection")))

/-- Reads an operation of a document. -/
def operation (operation : Graphql.Operation) : Except Failure Operation := do
  if operation.kind = .subscription then
    Failure.unbuildable "subscriptions are not supported" none
  else
    match context.surface.types.root? operation.kind with
    | none => Failure.unbuildable s!"schema has no {operation.kind.text} type" none
    | some root =>
        let collected ← context.collect root [operation.selections]
        let fields ← collected.mapM fun (key, fields) =>
          context.rootField operation.kind root key fields
        pure ⟨operation.kind, fields⟩

end Context

/-- Reads the operation that is wanted of a document, however deep its selections nest.  The limit that
an interpreter's stack sets to nested selections is not modelled; the one on the payloads of cursors
is. -/
def Surface.read (surface : Surface) (document : Document) (bindings : Entries Value)
    (wanted : Option String) : Except Failure Operation :=
  match document.operation? wanted with
  | some operation => Context.operation ⟨surface, document, bindings⟩ operation
  | none =>
      let reason :=
        match Fault.place? wanted with
        | some name => s!"Unknown operation named '{name}'"
        | none => "Must provide operation name if query contains multiple operations"
      .error (.fault (.invalidInput reason none))

end GraphGateway.Request
