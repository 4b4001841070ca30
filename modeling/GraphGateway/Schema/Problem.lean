import GraphGateway.Schema.Model
import GraphGateway.Value.Shown

/-!
Problems of a base schema.  A schema with any of them is not served; all of them are told together.
-/
namespace GraphGateway.Schema

/-- How two properties types differ on one property. -/
inductive Difference where
  | onlyIn (property owner : String)
  | typed (property firstType firstOwner secondType secondOwner : String)
  | oneSided (owner : String)
  | stated (text : String)
  deriving DecidableEq, Repr

def Difference.text : Difference → String
  | .onlyIn property owner => s!"'{property}' only declared by {owner}"
  | .typed property firstType firstOwner secondType secondOwner =>
      s!"'{property}' is {firstType} in {firstOwner} but {secondType} in {secondOwner}"
  | .oneSided owner => s!"only one end declares properties '{owner}'"
  | .stated text => text

inductive Problem where
  /-- A field names what is not declared; `wording` stands in for the usual text. -/
  | reference (typeName fieldName : String) (target : Value) (wording : Option String)
  | identifierType (typeName declared : String)
  | mismatch (field paired : String) (differences : List Difference)
  | misplacedIdentifier (typeName fieldName reason : String)
  | nameConflict (typeName : String) (wording : Option String)
  | directive (typeName fieldName reason : String)
  | unsupportedType (typeName fieldName reason : String)

def Problem.message : Problem → String
  | .reference typeName fieldName target wording =>
      wording.getD s!"{typeName}.{fieldName} references undeclared type '{target.plain}'"
  | .identifierType typeName declared => s!"{typeName}.id must be of type ID!, found {declared}"
  | .mismatch field paired differences =>
      let base := s!"Relationship properties of {field} and {paired} are not structurally identical"
      if differences.isEmpty then base
      else s!"{base}: " ++ "; ".intercalate (differences.map Difference.text)
  | .misplacedIdentifier typeName fieldName reason =>
      s!"@identifier on {typeName}.{fieldName} is misplaced: {reason}"
  | .nameConflict typeName wording =>
      wording.getD
        s!"Generated type '{typeName}' conflicts with an existing definition of the same name"
  | .directive typeName fieldName reason =>
      s!"Invalid directive on {typeName}.{fieldName}: {reason}"
  | .unsupportedType typeName fieldName reason =>
      s!"Unsupported type on {typeName}.{fieldName}: {reason}"

/-- The word for the kind of a problem. -/
def Problem.kind : Problem → String
  | .reference _ _ _ _ => "SchemaReferenceError"
  | .identifierType _ _ => "InvalidIdentifierFieldError"
  | .mismatch _ _ _ => "RelationshipPropertyMismatchError"
  | .misplacedIdentifier _ _ _ => "MisplacedIdentifierDirectiveError"
  | .nameConflict _ _ => "TypeNameConflictError"
  | .directive _ _ _ => "InvalidDirectiveError"
  | .unsupportedType _ _ _ => "UnsupportedFieldTypeError"

/-- A field and what is wrong with it, by name. -/
def fieldDetails (typeName fieldName reason : String) : Entries Value :=
  [("type_name", .text typeName), ("field_name", .text fieldName), ("reason", .text reason)]

/-- The parts of a problem by name. -/
def Problem.details : Problem → Entries Value
  | .reference typeName fieldName target _ =>
      [("type_name", .text typeName), ("field_name", .text fieldName), ("reference", target)]
  | .identifierType typeName declared =>
      [("type_name", .text typeName), ("declared_type", .text declared)]
  | .mismatch field paired differences =>
      [("field", .text field), ("paired_field", .text paired),
       ("differences", .list (differences.map fun difference => .text difference.text))]
  | .misplacedIdentifier typeName fieldName reason => fieldDetails typeName fieldName reason
  | .nameConflict typeName _ => [("type_name", .text typeName)]
  | .directive typeName fieldName reason => fieldDetails typeName fieldName reason
  | .unsupportedType typeName fieldName reason => fieldDetails typeName fieldName reason

/-- All problems of one schema, each on a line of its own. -/
def problemReport (problems : List Problem) : String :=
  s!"Schema build failed with {problems.length} error(s):\n" ++
    "\n".intercalate (problems.map fun problem => s!"  - {problem.message}")

/-- A field of a node type that names a node type and no relationship. -/
def Problem.unmarkedNode (typeName fieldName nodeName : String) : Problem :=
  .reference typeName fieldName (.text nodeName) (some
    s!"{typeName}.{fieldName} references node type '{nodeName}' without a @relationship directive")

end GraphGateway.Schema
