import GraphGateway.Statement.Emission

/-!
Compiled statements.  A root field that uses the database becomes one statement: its text, the
values of its parameters, and what is needed to answer from its rows.
-/
namespace GraphGateway.Statement

open Request Schema

/-- How the rows of a statement become an answer. -/
inductive Shape where
  /-- The rows are the answer. -/
  | rows
  | list (selection : NodeSelection)
  | lookup (variants : List NodeSelection)
  | response (selection : ResponseSelection)

structure Compiled where
  text : String
  parameters : Entries Value := []
  writes : Bool := false
  shape : Shape := .rows
  /-- Whether an entry without a match undoes the whole request. -/
  requireMatch : Bool := false
  /-- The paths of the entries that report their matches. -/
  paths : List String := []

namespace Basis

variable (basis : Basis)

def planResponse (node : NodeType) : List ResponseField → Except Failure ResponsePlan
  | [] => .ok []
  | .nodes key selection :: rest => do
      let fields ← basis.planFields node selection.fields
      let others ← planResponse node rest
      pure ((key, fields) :: others)
  | .leaf _ :: rest => planResponse node rest

def planVariants : List NodeSelection → Except Failure (List VariantPlan)
  | [] => .ok []
  | selection :: rest => do
      let node ← Failure.ofLookup (basis.model.node selection.typeName)
      let fields ← basis.planFields node selection.fields
      let others ← planVariants rest
      pure ({ label := node.name, identifier := node.identifier.stored, fields } :: others)

/-- Plans a root field; the name of a root type needs no statement. -/
def plan : RootField → Except Failure Plan
  | .list key typeName selection filter => do
      let node ← Failure.ofLookup (basis.model.node typeName)
      let filter ← readFilter node filter key
      let fields ← basis.planFields node selection.fields
      pure (.list node.name filter fields)
  | .lookup key id variants => do
      if !basis.features.relationshipProperties then
        Failure.invalid "node lookup is not available" key
      else if variants.isEmpty then
        Failure.unbuildable "no node types to resolve" (some key)
      else
        let variants ← basis.planVariants variants
        pure (.lookup id variants)
  | .create key typeName inputs response => do
      let node ← Failure.ofLookup (basis.model.node typeName)
      let nodes ← inputs.zipIdx.mapM fun (input, index) =>
        basis.planNode node s!"{key}[{index}]" input
      let response ← basis.planResponse node response.fields
      pure (.create nodes response)
  | .update key typeName response filter assignments connections => do
      let node ← Failure.ofLookup (basis.model.node typeName)
      let filter ← readFilter node filter key
      let input ← objectEntries (orEmpty (some assignments))
      checkKeys node key false input
      let entries ← basis.planEntries node key input
      let connections ← objectEntries (orEmpty (some connections))
      let connections ← basis.planConnectionUpdates node key connections
      let response ← basis.planResponse node response.fields
      pure (.update node.name filter (propertiesIn node input) entries connections response)
  | .typename key _ => Failure.unbuildable "cannot compile TypenameField" (some key)

end Basis

/-- How the rows of the statement of a root field are answered. -/
def Shape.ofField : RootField → Shape
  | .list _ _ selection _ => .list selection
  | .lookup _ _ variants => .lookup variants
  | .create _ _ _ selection => .response selection
  | .update _ _ selection _ _ _ => .response selection
  | .typename _ _ => .rows

def Plan.writes : Plan → Bool
  | .create _ _ => true
  | .update _ _ _ _ _ _ => true
  | _ => false

/-- The statement of a plan. -/
def Plan.compiled (features : Settings.Features) (plan : Plan) (shape : Shape) : Compiled :=
  let (clauses, supply) := plan.emit features {}
  { text := Cypher.Clause.text clauses
    parameters := supply.parameters
    writes := plan.writes
    shape
    requireMatch := plan.writes && features.requireMatch
    paths := plan.paths }

/-- Compiles a root field. -/
def Basis.compile (basis : Basis) (field : RootField) : Except Failure Compiled := do
  let plan ← basis.plan field
  pure (plan.compiled basis.features (Shape.ofField field))

end GraphGateway.Statement
