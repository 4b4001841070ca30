import GraphGateway.Statement.ReadPlan

/-!
Clauses that read a plan.  Every relationship and every connection is a subquery that answers one
value for the node it starts from, so that nested plans stay one statement.
-/
namespace GraphGateway.Statement

open Cypher Settings

/-- The key under which an edge has its place in the order of creation. -/
def sequenceKey : String := "__seq"

def edgesKey : String := "edges"

def hasPreviousKey : String := "hasPrevious"

/-- The key under which a looked-up node has the name of its type. -/
def resolvedTypeKey : String := "__resolveType"

abbrev MapEntries := List (String × Expression)

/-- The relationship of a step from a node, with a variable or an empty one, to a target. -/
def Step.pattern (step : Step) (source name target : String) : Pattern :=
  .relationship
    { source, direction := step.direction, name, label := step.label,
      target := { name := target, label := some step.target } }

/-- The subquery that finds out whether an edge stands at or before the start of a page. -/
def emitPrevious (features : Features) (source : String) (step : Step) :
    Option Expression → Naming (List Clause × Expression)
  | none => pure ([], .no)
  | some start => do
      let edge ← newName "edge"
      let previous ← newName "previous"
      let counted := Expression.compare .above (.count (.variable edge)) (.number 0)
      pure ([.subquery [source]
        [.findOptional (step.pattern source edge ""),
         .filter [.compare .atMost (.property edge features.sequenceProperty) start],
         .answer [.as counted previous]]], .variable previous)

def emitLimit : Option Value → Naming (List Clause)
  | none => pure []
  | some limit => do
      let count ← bindValue limit "limit"
      pure [.limit count]

/-- The parameter of the ordering key that a page starts after. -/
def emitStart : Option Int → Naming (Option Expression)
  | none => pure none
  | some key => some <$> bindValue (.int key) "after"

mutual

/-- The subqueries of a field and its entry in the map of its node. -/
def emitField (features : Features) (source : String) :
    FieldPlan → Naming (List Clause × MapEntries)
  | .property key stored => pure ([], [(key, .property source stored)])
  | .related key step fields => do
      let target ← newName step.field
      let result ← newName "var"
      let (nested, entries) ← emitFields features target fields
      let collected := Expression.collect (.map entries)
      let answer := if step.isList then collected else .head collected
      let body := .find (step.pattern source "" target) :: (nested ++ [.answer [.as answer result]])
      pure ([.subquery [source] body], [(key, .variable result)])
  | .connection key step page sets => do
      let start ← emitStart page.start
      let edge ← newName "edge"
      let target ← newName step.field
      let edges ← newName "edges"
      let ordering := Expression.property edge features.sequenceProperty
      let limit ← emitLimit page.limit
      let (nested, entries) ← emitSets features edge target sets
      let conditions := .isPresent ordering :: (start.map (.compare .above ordering ·)).toList
      let body := [.find (step.pattern source edge target), .filter conditions,
          .carry [.kept edge, .kept target], .order ordering] ++ limit ++ nested ++
        [.answer [.as (.collect (.map ((sequenceKey, ordering) :: entries))) edges]]
      let (before, hasPrevious) ← emitPrevious features source step start
      pure (.subquery [source] body :: before,
        [(key, .map [(edgesKey, .variable edges), (hasPreviousKey, hasPrevious)])])

def emitFields (features : Features) (source : String) :
    List FieldPlan → Naming (List Clause × MapEntries)
  | [] => pure ([], [])
  | field :: rest => do
      let (clauses, entries) ← emitField features source field
      let (otherClauses, otherEntries) ← emitFields features source rest
      pure (clauses ++ otherClauses, entries ++ otherEntries)

/-- The subqueries of the edges and their entries in the map of an edge. -/
def emitSets (features : Features) (edge target : String) :
    List EdgeSetPlan → Naming (List Clause × MapEntries)
  | [] => pure ([], [])
  | .mk key fields :: rest => do
      let (clauses, entries) ← emitEdges features edge target fields
      let (otherClauses, otherEntries) ← emitSets features edge target rest
      pure (clauses ++ otherClauses, (key, .map entries) :: otherEntries)

def emitEdges (features : Features) (edge target : String) :
    List EdgePlan → Naming (List Clause × MapEntries)
  | [] => pure ([], [])
  | .property key stored :: rest => do
      let (clauses, entries) ← emitEdges features edge target rest
      pure (clauses, (key, .property edge stored) :: entries)
  | .node key fields :: rest => do
      let (nested, inner) ← emitFields features target fields
      let (clauses, entries) ← emitEdges features edge target rest
      pure (nested ++ clauses, (key, .map inner) :: entries)

end

end GraphGateway.Statement
