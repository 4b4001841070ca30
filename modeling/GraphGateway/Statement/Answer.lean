import GraphGateway.Paging.PageInfo
import GraphGateway.Request.Argument
import GraphGateway.Schema.Augmented
import GraphGateway.Statement.Compiled
import GraphGateway.Value.Order

/-!
Answers from rows.  A row has the maps that a statement projects; the answer has the same keys, in
the order of the selection, with what the database does not know: the names of types, the order and
the cursors of edges, and the facts about a page.
-/
namespace GraphGateway.Statement

open Paging (CursorCodec PageInfo)
open Request Schema

/-- The entry of a map under a key that it has to have. -/
def entryAt (key : String) : Value → Except Failure Value
  | .object entries =>
      match Entries.get? entries key with
      | some value => .ok value
      | none => .error (.missingKey key)
  | _ => .error .mismatched

/-- The entry of a map under a key, or null. -/
def entryOrNull (key : String) : Value → Except Failure Value
  | .object entries => .ok ((Entries.get? entries key).getD .null)
  | _ => .error .notObject

/-- An edge that was fetched, with its place in the order of creation. -/
def keyedEdge (edge : Value) : Except Failure (Value × Value) := do
  let key ← entryAt sequenceKey edge
  pure (key, edge)

def sortedBy (items : List (Value × Value)) : Except Failure (List (Value × Value)) :=
  match Value.sortBy? items with
  | some sorted => .ok sorted
  | none => .error .mismatched

/-- The edges that belong to a page of some size. -/
def pageOfSize {α : Type} (size : Option Int) (edges : List α) : List α :=
  match size with
  | none => edges
  | some size =>
      if size < 0 then edges.take (edges.length - size.natAbs) else edges.take size.toNat

/-- The whole number of edges that a page has. -/
def sizeOfFirst : Value → Except Failure (Option Int)
  | .null => .ok none
  | .int number => .ok (some number)
  | .bool flag => .ok (some (if flag then 1 else 0))
  | _ => .error .mismatched

/-- A page of a connection: its edges with their cursors, and the facts about it. -/
structure PageOfEdges where
  edges : List (Value × String)
  info : PageInfo

/-- The fact about a page that a field asks for. -/
def pageFact (info : PageInfo) (leaf : Leaf) : Except Failure Value :=
  if leaf.name = Graphql.typenameName then .ok (.text pageInfoName)
  else
    match leaf.name with
    | "hasNextPage" => .ok (.bool info.hasNextPage)
    | "hasPreviousPage" => .ok (.bool info.hasPreviousPage)
    | "startCursor" => .ok (.textOrNull info.startCursor)
    | "endCursor" => .ok (.textOrNull info.endCursor)
    | name => .error (.missingKey name)

/-- Answers some fields, each under its key; the last answer under a key counts. -/
def answerAll {α : Type} (answer : α → Except Failure (String × Value)) (fields : List α) :
    Except Failure Value := do
  let entries ← fields.mapM answer
  pure (.object (Entries.ofPairs entries))

section

variable (codec : CursorCodec)

/-- The page that a fetched connection holds. -/
def readPage (raw : Value) (issuer : String) (first : Value) : Except Failure PageOfEdges := do
  let fetched ← entryAt edgesKey raw
  let fetched ← elementsOf fetched
  let keyed ← fetched.mapM keyedEdge
  let sorted ← sortedBy keyed
  let size ← sizeOfFirst first
  let page := pageOfSize size sorted
  let edges ← page.mapM fun (key, edge) =>
    match codec.encode key (.text issuer) with
    | .ok cursor => pure (edge, cursor)
    | .error fault => throw (.orderingKey fault)
  let before ← entryAt hasPreviousKey raw
  pure { edges, info := .ofPage (edges.map Prod.snd) sorted.length size before.isTruthy }

/-- Answers what may be missing: null stays null. -/
def unlessNull (answer : Value → Except Failure (List (String × Value))) :
    Value → Except Failure Value
  | .null => .ok .null
  | raw => do
      let entries ← answer raw
      pure (.object (Entries.ofPairs entries))

mutual

/-- Answers one field of a node from the map of the node. -/
def answerField (typeName : String) (raw : Value) : NodeField → Except Failure (String × Value)
  | .leaf leaf => do
      if leaf.name = Graphql.typenameName then pure (leaf.key, .text typeName)
      else
        let value ← entryOrNull leaf.key raw
        pure (leaf.key, value)
  | .relationship key _ relatedType fields => do
      let related ← entryOrNull key raw
      match related with
      | .list items =>
          let nodes ← items.mapM (unlessNull fun item => answerFields relatedType item fields)
          pure (key, .list nodes)
      | item =>
          let node ← unlessNull (fun item => answerFields relatedType item fields) item
          pure (key, node)
  | .connection key name first _ fields => do
      let connection ← entryAt key raw
      let page ← readPage codec connection s!"{typeName}.{name}" first
      let entries ← answerConnection typeName name page fields
      pure (key, .object (Entries.ofPairs entries))

/-- Answers the fields of a node, each under its key. -/
def answerFields (typeName : String) (raw : Value) :
    List NodeField → Except Failure (List (String × Value))
  | [] => .ok []
  | field :: rest => do
      let first ← answerField typeName raw field
      let others ← answerFields typeName raw rest
      pure (first :: others)

/-- Answers the fields of a connection from its page. -/
def answerConnection (typeName name : String) (page : PageOfEdges) :
    List ConnectionField → Except Failure (List (String × Value))
  | [] => .ok []
  | .leaf leaf :: rest => do
      let others ← answerConnection typeName name page rest
      pure ((leaf.key, .text (connectionTypeName typeName name)) :: others)
  | .edges key fields :: rest => do
      let edges ← page.edges.mapM fun (edge, cursor) => do
        let raw ← entryAt key edge
        let entries ← answerEdge (edgeTypeName typeName name) cursor raw fields
        pure (Value.object (Entries.ofPairs entries))
      let others ← answerConnection typeName name page rest
      pure ((key, .list edges) :: others)
  | .pageInfo key leaves :: rest => do
      let facts ← answerAll (fun leaf => (leaf.key, ·) <$> pageFact page.info leaf) leaves
      let others ← answerConnection typeName name page rest
      pure ((key, facts) :: others)

/-- Answers the fields of an edge from the map of the edge. -/
def answerEdge (edgeType cursor : String) (raw : Value) :
    List EdgeField → Except Failure (List (String × Value))
  | [] => .ok []
  | .node key typeName fields :: rest => do
      let item ← entryAt key raw
      let node ← unlessNull (fun item => answerFields typeName item fields) item
      let others ← answerEdge edgeType cursor raw rest
      pure ((key, node) :: others)
  | .leaf leaf :: rest => do
      let value ←
        if leaf.name = cursorName then pure (.text cursor)
        else if leaf.name = Graphql.typenameName then pure (.text edgeType)
        else entryOrNull leaf.key raw
      let others ← answerEdge edgeType cursor raw rest
      pure ((leaf.key, value) :: others)

end

/-- Answers the selection of a node; a missing node is null. -/
def answerNode (raw : Value) (selection : NodeSelection) : Except Failure Value :=
  unlessNull (fun raw => answerFields codec selection.typeName raw selection.fields) raw

/-- A row with its position; one without a position stands first. -/
def positioned (row : Value) : Except Failure (Value × Value) := do
  let position ← entryOrNull "position" row
  pure (if position.isTruthy then position else .int 0, row)

/-- Answers a mutation from its rows. -/
def answerResponse (rows : Value) (selection : ResponseSelection) : Except Failure Value := do
  let rows ← elementsOf rows
  let keyed ← rows.mapM positioned
  let sorted ← sortedBy keyed
  answerAll (fun
    | .leaf leaf => pure (leaf.key, .text selection.typeName)
    | .nodes key nodes => do
        let items ← sorted.mapM fun (_, row) => do
          let data ← entryAt "data" row
          let raw ← entryAt key data
          answerNode codec raw nodes
        pure (key, .list items)) selection.fields

/-- The first of some rows; only a list has one. -/
def firstRow : Value → Except Failure Value
  | .list (row :: _) => .ok row
  | .object _ => .error (.missingKey "0")
  | _ => .error .mismatched

/-- Answers a looked-up node with the selection for its type. -/
def answerLookup (variants : List NodeSelection) (rows : Value) : Except Failure Value :=
  if !rows.isTruthy then .ok .null
  else do
    let row ← firstRow rows
    let raw ← entryAt rootName row
    let resolved ← entryAt resolvedTypeKey raw
    match variants.find? fun variant => resolved.isText variant.typeName with
    | some variant => answerNode codec raw variant
    | none => throw .notObject

/-- Answers a statement from what the database answers it with, which should be a list of rows. -/
def answer (rows : Value) : Shape → Except Failure Value
  | .rows => .ok rows
  | .list selection => do
      let rows ← elementsOf rows
      let items ← rows.mapM fun row => do
        let raw ← entryAt rootName row
        answerNode codec raw selection
      pure (.list items)
  | .lookup variants => answerLookup codec variants rows
  | .response selection => answerResponse codec rows selection

end

end GraphGateway.Statement
