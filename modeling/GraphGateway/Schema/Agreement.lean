import GraphGateway.Schema.Problem

/-!
Agreement of a model with the rules for identifiers and for paired relationships: the identifier has
one fixed type, only it is marked as one, and the two ends of a relationship store properties of one
shape.
-/
namespace GraphGateway.Schema

/-- The order of texts by their characters. -/
def textLe (first second : String) : Bool :=
  !decide (second < first)

/-- The order of pairs of texts. -/
def textPairLe (first second : String × String) : Bool :=
  if first.1 = second.1 then textLe first.2 second.2 else textLe first.1 second.1

namespace PropertiesType

/-- The shape of a properties type: its properties with their types, in order of names. -/
def signature (type : PropertiesType) : List (String × String) :=
  (type.fields.map fun field => (field.name, field.type.text)).mergeSort textPairLe

/-- Whether two properties types have one shape. -/
def agreesWith (first second : PropertiesType) : Bool :=
  first.signature == second.signature

/-- How two properties types differ on a property. -/
def difference? (first second : PropertiesType) (firstTypes secondTypes : Entries String)
    (property : String) : Option Difference :=
  match firstTypes.get? property, secondTypes.get? property with
  | some _, none => some (.onlyIn property first.name)
  | none, some _ => some (.onlyIn property second.name)
  | some firstType, some secondType =>
      if firstType = secondType then none
      else some (.typed property firstType first.name secondType second.name)
  | none, none => none

/-- Every property on which two properties types differ, in order of names. -/
def differences (first second : PropertiesType) : List Difference :=
  let firstTypes := Entries.ofPairs first.signature
  let secondTypes := Entries.ofPairs second.signature
  ((firstTypes.keys ++ secondTypes.keys).eraseDups.mergeSort textLe).filterMap
    (difference? first second firstTypes secondTypes)

end PropertiesType

/-- The type that an identifier is declared with. -/
def identifierType : TypeReference := { name := "ID", nonNull := true }

namespace NodeType

/-- The problem of an identifier that is declared with another type. -/
def identifierTypeProblems (node : NodeType) : List Problem :=
  match node.identifier.declared with
  | none => []
  | some declared =>
      if declared = identifierType then [] else [.identifierType node.name declared.text]

/-- The problems of marked fields that are no identifiers. -/
def markedFieldProblems (node : NodeType) : List Problem :=
  (node.marked.filter (· != identifierName)).map fun field =>
    .misplacedIdentifier node.name field s!"only the '{identifierName}' field serves as identifier"

end NodeType

def PropertiesType.markedFieldProblems (type : PropertiesType) : List Problem :=
  type.marked.map fun field =>
    .misplacedIdentifier type.name field "relationship properties have no identifier"

/-- The problem of two ends that store properties of these types. -/
def endProblems (first second : Model.End) :
    Option PropertiesType → Option PropertiesType → List Problem
  | none, none => []
  | some type, none => [.mismatch first.text second.text [.oneSided type.name]]
  | none, some type => [.mismatch first.text second.text [.oneSided type.name]]
  | some firstType, some secondType =>
      if firstType.agreesWith secondType then []
      else [.mismatch first.text second.text (firstType.differences secondType)]

namespace Model

variable (model : Model)

/-- The problem of a pair of ends. -/
def pairProblems (pair : End × End) : Except LookupFault (List Problem) := do
  let first ← model.relationship pair.1.typeName pair.1.fieldName
  let second ← model.relationship pair.2.typeName pair.2.fieldName
  pure (endProblems pair.1 pair.2 (model.propertiesOf? first) (model.propertiesOf? second))

/-- Every breach of the rules.  A type declared twice may lack a field that its twin has, so that a
look-up fails. -/
def violations : Except LookupFault (List Problem) := do
  let pairs ← model.relationshipPairs
  let mismatches ← pairs.mapM model.pairProblems
  pure ((model.nodes.flatMap fun node =>
      node.identifierTypeProblems ++ node.markedFieldProblems) ++
    model.properties.flatMap PropertiesType.markedFieldProblems ++ mismatches.flatten)

end Model

end GraphGateway.Schema
