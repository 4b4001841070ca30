import GraphGateway.Cypher.Supply
import GraphGateway.Request.Fault

/-!
Filters of nodes.  A filter asks for equality on the identifier and on properties that are no lists;
null asks for nodes without the property.
-/
namespace GraphGateway.Statement

open Cypher Request Schema

/-- A value for a stored property; the name of its field names the parameter. -/
structure Assignment where
  field : String
  stored : String
  value : Value
  deriving Inhabited

/-- The entries of a filter up to the first that is none, and the key of that one. -/
def filterEntries (node : NodeType) : List (String × Value) → List Assignment × Option String
  | [] => ([], none)
  | (name, value) :: rest =>
      match (node.field? name).filter (!·.type.isList) with
      | some field =>
          let (others, refused) := filterEntries node rest
          ({ field := name, stored := field.stored, value } :: others, refused)
      | none => ([], some name)

def refusedFilter (node : NodeType) (name path : String) : Fault :=
  .invalidInput s!"'{name}' is not a filter of {node.name}" (some path)

/-- Reads a filter; anything that counts as nothing filters nothing. -/
def readFilter (node : NodeType) (filter : Value) (path : String) :
    Except Failure (List Assignment) :=
  match filter with
  | .object entries =>
      match filterEntries node entries with
      | (accepted, none) => .ok accepted
      | (_, some name) => .error (.fault (refusedFilter node name path))
  | value => if value.isTruthy then .error .notObject else .ok []

/-- The condition of one entry of a filter. -/
def emitCondition (owner : String) (entry : Assignment) : Naming Expression :=
  let target := Expression.property owner entry.stored
  if entry.value.isNull then pure (.isMissing target)
  else do
    let wanted ← bindValue entry.value entry.field
    pure (.compare .equal target wanted)

def emitConditions (owner : String) : List Assignment → Naming (List Expression)
  | [] => pure []
  | entry :: rest => do
      let first ← emitCondition owner entry
      let others ← emitConditions owner rest
      pure (first :: others)

/-- The assignments of some values to an owner. -/
def emitAssignments (owner : String) : List Assignment → Naming (List (Expression × Expression))
  | [] => pure []
  | entry :: rest => do
      let value ← bindValue entry.value entry.field
      let others ← emitAssignments owner rest
      pure ((.property owner entry.stored, value) :: others)

end GraphGateway.Statement
