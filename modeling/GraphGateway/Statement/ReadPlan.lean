import GraphGateway.Request.Selection
import GraphGateway.Settings.Features
import GraphGateway.Statement.Filter
import GraphGateway.Value.Order

/-!
Plans of what is read.  A plan is a selection with its names resolved in the model: stored
properties, relationships with the type they lead to, and pages with their size and their start.
Whatever is wrong with a selection is found while it is planned.
-/
namespace GraphGateway.Statement

open Paging (CursorCodec)
open Request Schema
open Settings (Features)

/-- The page of a connection. -/
structure Page where
  /-- The ordering key that the page starts after. -/
  start : Option Int
  /-- One edge more than the page has, which tells whether another page follows. -/
  limit : Option Value
  deriving Repr, Inhabited

/-- A relationship from the node at hand, and the type that it leads to. -/
structure Step where
  field : String
  direction : Direction
  label : String
  target : String
  isList : Bool
  deriving DecidableEq, Repr, Inhabited

mutual

inductive FieldPlan where
  | property (key stored : String)
  | related (key : String) (step : Step) (fields : List FieldPlan)
  | connection (key : String) (step : Step) (page : Page) (sets : List EdgeSetPlan)

/-- The edges under one key. -/
inductive EdgeSetPlan where
  | mk (key : String) (fields : List EdgePlan)

inductive EdgePlan where
  | property (key stored : String)
  | node (key : String) (fields : List FieldPlan)

end

instance : Inhabited FieldPlan := ⟨.property "" ""⟩

def cursorName : String := "cursor"

/-- What selections are planned against. -/
structure Basis where
  model : Model
  features : Features
  codec : CursorCodec

namespace Basis

variable (basis : Basis)

/-- A relationship of a node type with the type it leads to. -/
def relationshipOf (node : NodeType) (name : String) :
    Except Failure (Relationship × NodeType) :=
  match node.relationship? name with
  | none => Failure.unbuildable s!"{node.name} has no relationship field '{name}'" none
  | some relationship => do
      let related ← Failure.ofLookup (basis.model.related relationship)
      pure (relationship, related)

def stepOf (relationship : Relationship) (related : NodeType) : Step where
  field := relationship.name
  direction := relationship.direction
  label := relationship.label
  target := related.name
  isList := relationship.type.isList

/-- The number after a number. -/
def successor? : Value → Option Value
  | .int number => some (.int (number + 1))
  | .bool flag => some (.int (if flag then 2 else 1))
  | .float number => some (.float (number + 1.0))
  | _ => none

/-- The limit on the edges of a page whose size is within the bounds. -/
def pageLimit (issuer : String) (first : Value) : Except Failure Value := do
  match first.less? (.int 0), successor? first with
  | some isNegative, some limit =>
      if isNegative then
        Failure.invalid s!"'first' must not be negative, got {first.plain}" issuer
      else
        match basis.features.maxPageSize with
        | some most =>
            if (Value.int most).less? first = some true then
              Failure.invalid s!"'first' must not exceed {most}, got {first.plain}" issuer
            else pure limit
        | none => pure limit
  | _, _ => throw .mismatched

/-- The page that the arguments of a connection ask for. -/
def pageOf (issuer : String) (first after : Value) : Except Failure Page := do
  let limit ← if first.isNull then pure none else some <$> basis.pageLimit issuer first
  let start ←
    if after.isNull then pure none
    else
      match basis.codec.decode after (.text issuer) with
      | .ok position => pure (some position.orderingKey)
      | .error rejection => throw (.ofRejection rejection)
  pure { start, limit }

/-- The name of a connection, which its cursors bear. -/
def issuerOf (node : NodeType) (relationship : Relationship) : String :=
  s!"{node.name}.{relationship.name}"

/-- A property selected on an edge, unless the answer has it without the database. -/
def planEdgeLeaf (issuer : String) (properties : Option PropertiesType) (leaf : Leaf) :
    Except Failure (List EdgePlan) :=
  if leaf.name = cursorName || leaf.name = Graphql.typenameName then .ok []
  else
    match properties.bind (·.field? leaf.name) with
    | some field => .ok [.property leaf.key field.stored]
    | none =>
        Failure.unbuildable s!"{issuer} edges have no property '{leaf.name}'" (some leaf.key)

/-- A leaf selected on a node, unless the answer has it without the database. -/
def planLeaf (node : NodeType) (leaf : Leaf) : Except Failure (List FieldPlan) :=
  if leaf.name = Graphql.typenameName then .ok []
  else
    match node.field? leaf.name with
    | some field => .ok [.property leaf.key field.stored]
    | none => Failure.unbuildable s!"{node.name} has no field '{leaf.name}'" (some leaf.key)

mutual

/-- Plans a field of a node. -/
def planField (node : NodeType) : NodeField → Except Failure (List FieldPlan)
  | .leaf leaf => planLeaf node leaf
  | .relationship key name _ fields => do
      let (relationship, related) ← basis.relationshipOf node name
      let inner ← planFields related fields
      pure [.related key (stepOf relationship related) inner]
  | .connection key name first after fields => do
      if !basis.features.relationshipProperties then
        Failure.invalid "connection fields are not available" s!"{node.name}.{key}"
      else
        let (relationship, related) ← basis.relationshipOf node name
        let issuer := issuerOf node relationship
        let page ← basis.pageOf issuer first after
        let properties := basis.model.propertiesOf? relationship
        let sets ← planSets issuer properties related fields
        pure [.connection key (stepOf relationship related) page sets]

/-- Plans the fields of a node. -/
def planFields (node : NodeType) : List NodeField → Except Failure (List FieldPlan)
  | [] => .ok []
  | field :: rest => do
      let first ← planField node field
      let others ← planFields node rest
      pure (first ++ others)

/-- Plans the edges of a connection. -/
def planSets (issuer : String) (properties : Option PropertiesType) (related : NodeType) :
    List ConnectionField → Except Failure (List EdgeSetPlan)
  | [] => .ok []
  | .edges key fields :: rest => do
      let first ← planEdges issuer properties related fields
      let others ← planSets issuer properties related rest
      pure (.mk key first :: others)
  | .leaf _ :: rest => planSets issuer properties related rest
  | .pageInfo _ _ :: rest => planSets issuer properties related rest

/-- Plans the fields of an edge. -/
def planEdges (issuer : String) (properties : Option PropertiesType) (related : NodeType) :
    List EdgeField → Except Failure (List EdgePlan)
  | [] => .ok []
  | .leaf leaf :: rest => do
      let first ← planEdgeLeaf issuer properties leaf
      let others ← planEdges issuer properties related rest
      pure (first ++ others)
  | .node key _ fields :: rest => do
      let inner ← planFields related fields
      let others ← planEdges issuer properties related rest
      pure (.node key inner :: others)

end

end Basis

end GraphGateway.Statement
