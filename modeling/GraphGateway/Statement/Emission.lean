import GraphGateway.Statement.Projection
import GraphGateway.Statement.WritePlan

/-!
Clauses that write a plan.  Every relationship that is created draws the next number of its label's
counter in a subquery of its own.  Every entry that connects or updates reports how many matches it
had, and the reports of nested entries join those of the node they are nested in.
-/
namespace GraphGateway.Statement

open Cypher Settings

/-- The variable of the node that a statement is about. -/
def rootName : String := "this"

/-- Draws the next number of the counter of a relationship type, under a new name. -/
def emitDraw (features : Features) (label : String) : Naming (Clause × String) := do
  let counter ← newName "sequence"
  let drawn ← newName "seq"
  let name ← bindValue (.text label) "sequence_name"
  let value := Expression.counted counter
  pure (.subquery []
    [.merge counter features.sequenceLabel name,
     .setOnCreate value (.number 0),
     .set [(value, .plus value (.number 1))],
     .answer [.as value drawn]], drawn)

/-- Creates a relationship between two bound nodes with its number and its properties. -/
def emitRelationship (features : Features) (source : String) (step : Step) (target : String)
    (properties : List Assignment) : Naming (List Clause × String) := do
  let (draw, drawn) ← emitDraw features step.label
  let edge ← newName "edge"
  let assignments ← emitAssignments edge properties
  let pattern : RelationshipPattern :=
    { source, direction := step.direction, name := edge, label := step.label,
      target := { name := target, label := none } }
  pure ([draw, .create (.relationship pattern),
    .set ((.property edge features.sequenceProperty, .variable drawn) :: assignments)], edge)

/-- Answers the path of an entry with the number of its matches. -/
def emitReport (path edge count report : String) : Naming (List Clause) := do
  let name ← bindValue (.text path) "path"
  pure [.carry [.as (.count (.variable edge)) count],
    .answer [.as (.report name (.variable count)) report]]

/-- The identifier that a new node gets. -/
def emitIdentifier : Option Value → Naming Expression
  | some id => bindValue id "id"
  | none => pure .freshIdentifier

mutual

/-- Creates a node and everything nested in it; answers the names of the reports. -/
def emitNode (features : Features) (name : String) (kept : List String) :
    NodePlan → Naming (List Clause × List String)
  | .mk label identifier id properties entries => do
      let id ← emitIdentifier id
      let assignments ← emitAssignments name properties
      let (nested, reports) ← emitEntries features name entries
      pure ([.create (.node { name, label := some label }),
          .set ((.property name identifier, id) :: assignments),
          .carry ((kept ++ [name]).map Column.kept)] ++ nested, reports)

/-- Creates one relationship of a bound node; answers the name of its report. -/
def emitEntry (features : Features) (source : String) : EntryPlan → Naming (Clause × String)
  | .create step properties node => do
      let target ← newName "create"
      let report ← newName "matches"
      let (body, reports) ← emitNode features target [source] node
      let (relationship, _) ← emitRelationship features source step target properties
      pure (.subquery [source]
        (body ++ relationship ++ [.answer [.as (concatenation reports) report]]), report)
  | .connect step path filter properties => do
      let target ← newName "connect"
      let count ← newName "count"
      let report ← newName "matches"
      let conditions ← emitConditions target filter
      let (relationship, edge) ← emitRelationship features source step target properties
      let reported ← emitReport path edge count report
      pure (.subquery [source]
        (.find (.node { name := target, label := some step.target }) ::
          (Clause.filtering conditions ++ relationship ++ reported)), report)

def emitEntries (features : Features) (source : String) :
    List EntryPlan → Naming (List Clause × List String)
  | [] => pure ([], [])
  | entry :: rest => do
      let (clause, report) ← emitEntry features source entry
      let (clauses, reports) ← emitEntries features source rest
      pure (clause :: clauses, report :: reports)

end

/-- Updates the properties of relationships of a bound node. -/
def emitConnectionUpdate (source : String) (update : ConnectionUpdate) :
    Naming (Clause × String) := do
  let edge ← newName "edge"
  let target ← newName "node"
  let count ← newName "count"
  let report ← newName "matches"
  let conditions ← emitConditions target update.filter
  let assignments ← emitAssignments edge update.properties
  let reported ← emitReport update.path edge count report
  pure (.subquery [source]
    (.find (update.step.pattern source edge target) ::
      (Clause.filtering conditions ++ Clause.setting assignments ++ reported)), report)

def emitConnectionUpdates (source : String) :
    List ConnectionUpdate → Naming (List Clause × List String)
  | [] => pure ([], [])
  | update :: rest => do
      let (clause, report) ← emitConnectionUpdate source update
      let (clauses, reports) ← emitConnectionUpdates source rest
      pure (clause :: clauses, report :: reports)

/-- The nodes of an answer under their keys. -/
abbrev ResponsePlan := List (String × List FieldPlan)

def emitResponse (features : Features) : ResponsePlan → Naming (List Clause × MapEntries)
  | [] => pure ([], [])
  | (key, fields) :: rest => do
      let (clauses, entries) ← emitFields features rootName fields
      let (otherClauses, otherEntries) ← emitResponse features rest
      pure (clauses ++ otherClauses, (key, .map entries) :: otherEntries)

/-- Answers the data of a mutation with further columns. -/
def emitAnswer (features : Features) (response : ResponsePlan) (columns : List String) :
    Naming (List Clause) := do
  let (clauses, entries) ← emitResponse features response
  pure (clauses ++ [.answer (.as (.map entries) "data" :: columns.map Column.kept)])

/-- A type that a looked-up node may be of. -/
structure VariantPlan where
  label : String
  identifier : String
  fields : List FieldPlan

inductive Plan where
  | list (label : String) (filter : List Assignment) (fields : List FieldPlan)
  | lookup (id : Value) (variants : List VariantPlan)
  | create (nodes : List NodePlan) (response : ResponsePlan)
  | update (label : String) (filter assignments : List Assignment) (entries : List EntryPlan)
      (connections : List ConnectionUpdate) (response : ResponsePlan)

/-- The clauses that find a looked-up node among the nodes of one type. -/
def emitVariant (features : Features) (id : Expression) (variant : VariantPlan) :
    Naming (List Clause) := do
  let (nested, entries) ← emitFields features rootName variant.fields
  pure ([.find (.node { name := rootName, label := some variant.label }),
      .filter [.compare .equal (.property rootName variant.identifier) id]] ++ nested ++
    [.answer [.as (.map ((resolvedTypeKey, .text variant.label) :: entries)) rootName]])

def emitVariants (features : Features) (id : Expression) :
    List VariantPlan → Naming (List Clause)
  | [] => pure []
  | variant :: rest => do
      let first ← emitVariant features id variant
      let others ← emitVariants features id rest
      pure (first ++ (if rest.isEmpty then [] else [.union]) ++ others)

/-- Creates the nodes of a mutation, numbered from `index` on; answers their names. -/
def emitRoots (features : Features) : Nat → List NodePlan → Naming (List Clause × List String)
  | _, [] => pure ([], [])
  | index, node :: rest => do
      let name := s!"{rootName}{index}"
      let (body, reports) ← emitNode features name [] node
      let (clauses, names) ← emitRoots features (index + 1) rest
      let answer := Clause.answer [.kept name, .as (concatenation reports) s!"{name}_matches"]
      pure (.subquery [] (body ++ [answer]) :: clauses, name :: names)

/-- The clauses of a plan. -/
def Plan.emit (features : Features) : Plan → Naming (List Clause)
  | .list label filter fields => do
      let conditions ← emitConditions rootName filter
      let (nested, entries) ← emitFields features rootName fields
      pure (.find (.node { name := rootName, label := some label }) ::
        (Clause.filtering conditions ++ nested ++ [.answer [.as (.map entries) rootName]]))
  | .lookup id variants => do
      let id ← bindValue id "id"
      let branches ← emitVariants features id variants
      pure [.subquery [] branches, .answer [.kept rootName], .limit (.number 1)]
  | .create nodes response => do
      let (clauses, names) ← emitRoots features 0 nodes
      let created := Expression.list (names.map .variable)
      let reports := concatenation (names.map fun name => s!"{name}_matches")
      let answer ← emitAnswer features response ["position", "matches"]
      pure (clauses ++
        [.carry [.as created "created", .as reports "matches"],
         .unwind (.positions (.variable "created")) "position",
         .carry [.as (.at (.variable "created") (.variable "position")) rootName,
           .kept "position", .kept "matches"]] ++ answer)
  | .update label filter assignments entries connections response => do
      let conditions ← emitConditions rootName filter
      let assigned ← emitAssignments rootName assignments
      let (nested, reports) ← emitEntries features rootName entries
      let (updates, otherReports) ← emitConnectionUpdates rootName connections
      let answer ← emitAnswer features response ["matches"]
      pure (.find (.node { name := rootName, label := some label }) ::
        (Clause.filtering conditions ++ Clause.setting assigned ++ [.carry [.kept rootName]] ++
          nested ++ updates ++
          [.carry [.kept rootName, .as (concatenation (reports ++ otherReports)) "matches"]] ++
          answer))

/-- The paths of all entries that report their matches, in order. -/
def Plan.paths : Plan → List String
  | .create nodes _ => nodes.flatMap NodePlan.paths
  | .update _ _ _ entries connections _ =>
      EntryPlan.pathsOf entries ++ connections.map ConnectionUpdate.path
  | _ => []

end GraphGateway.Statement
