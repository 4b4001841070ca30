import GraphGateway.Request.Selection
import GraphGateway.Schema.Described

/-!
Requests described as values, for tools that show or compare them.  Every part tells under `ir` what
it is; a part with a key of its own in the answer has that next, and then the rest by name.
-/
namespace GraphGateway.Request

def describedAs (kind : String) (parts : Entries Value) : Value :=
  .object (("ir", .text kind) :: parts)

/-- A part that goes by a key in the answer. -/
def describedBy (kind key : String) (parts : Entries Value) : Value :=
  describedAs kind (("alias", .text key) :: parts)

def Leaf.described (leaf : Leaf) : Value :=
  describedBy "FieldSelection" leaf.key [("name", .text leaf.name)]

/-- The fields asked of a node, each described. -/
def describedNode (typeName : String) (fields : List Value) : Value :=
  describedAs "NodeSelection" [("type_name", .text typeName), ("fields", .list fields)]

mutual

def NodeField.described : NodeField → Value
  | .leaf item => item.described
  | .relationship key name typeName fields =>
      describedBy "RelationshipSelection" key
        [("name", .text name), ("node", describedNode typeName (describedNodeFields fields))]
  | .connection key name first after fields =>
      describedBy "ConnectionSelection" key
        [("name", .text name), ("first", first), ("after", after),
         ("fields", .list (describedConnectionFields fields))]

def describedNodeFields : List NodeField → List Value
  | [] => []
  | field :: rest => field.described :: describedNodeFields rest

def ConnectionField.described : ConnectionField → Value
  | .leaf item => item.described
  | .edges key fields =>
      describedBy "EdgesSelection" key [("fields", .list (describedEdgeFields fields))]
  | .pageInfo key fields =>
      describedBy "PageInfoSelection" key [("fields", .list (fields.map Leaf.described))]

def describedConnectionFields : List ConnectionField → List Value
  | [] => []
  | field :: rest => field.described :: describedConnectionFields rest

def EdgeField.described : EdgeField → Value
  | .leaf item => item.described
  | .node key typeName fields =>
      describedBy "EdgeNodeSelection" key
        [("node", describedNode typeName (describedNodeFields fields))]

def describedEdgeFields : List EdgeField → List Value
  | [] => []
  | field :: rest => field.described :: describedEdgeFields rest

end

def NodeSelection.described (selection : NodeSelection) : Value :=
  describedNode selection.typeName (describedNodeFields selection.fields)

def ResponseField.described : ResponseField → Value
  | .leaf item => item.described
  | .nodes key selection =>
      describedBy "NodeListSelection" key [("node", selection.described)]

def ResponseSelection.described (selection : ResponseSelection) : Value :=
  describedAs "ResponseSelection"
    [("type_name", .text selection.typeName),
     ("fields", .list (selection.fields.map ResponseField.described))]

def RootField.described : RootField → Value
  | .list key typeName selection filter =>
      describedBy "ListRead" key
        [("type_name", .text typeName), ("selection", selection.described), ("where", filter)]
  | .lookup key id variants =>
      describedBy "NodeLookup" key
        [("id", id), ("variants", .list (variants.map NodeSelection.described))]
  | .create key typeName inputs response =>
      describedBy "CreateMutation" key
        [("type_name", .text typeName), ("inputs", .list inputs),
         ("response", response.described)]
  | .update key typeName response filter assignments connections =>
      describedBy "UpdateMutation" key
        [("type_name", .text typeName), ("response", response.described), ("where", filter),
         ("update", assignments), ("update_connection", connections)]
  | .typename key typeName =>
      describedBy "TypenameField" key [("type_name", .text typeName)]

def Operation.described (operation : Operation) : Value :=
  describedAs "Operation"
    [("kind", .text operation.kind.text),
     ("fields", .list (operation.fields.map RootField.described))]

end GraphGateway.Request
