import GraphGateway.Graphql.Document
import GraphGateway.Graphql.TypeSystem

/-!
The places of a request where something is selected, each with the type it is selected on.  A type
is missing where the request names what the type system does not have.
-/
namespace GraphGateway.Graphql

def typenameField : FieldDefinition := ⟨typenameName, requiredType "String", []⟩

def schemaField : FieldDefinition := ⟨"__schema", requiredType "__Schema", []⟩

def typeField : FieldDefinition :=
  ⟨"__type", namedType "__Type", [⟨"name", requiredType "String"⟩]⟩

/-- A field of a composite type, or one of the fields about types. -/
def TypeDefinition.selectable? (parent : TypeDefinition) (name : String) :
    Option FieldDefinition :=
  if name = typenameName then some typenameField
  else if parent.name = TypeSystem.queryName && name = schemaField.name then some schemaField
  else if parent.name = TypeSystem.queryName && name = typeField.name then some typeField
  else parent.field? name

namespace TypeSystem

variable (system : TypeSystem)

/-- The composite type with a name. -/
def composite? (name : String) : Option TypeDefinition :=
  (system.type? name).filter (·.kind.isComposite)

/-- The type that operations of a kind start from. -/
def root? : OperationKind → Option TypeDefinition
  | .query => system.definition? queryName
  | .mutation => system.definition? mutationName
  | .subscription => none

/-- The type that a condition narrows to; without one it stays. -/
def narrowed (parent : Option TypeDefinition) : Option String → Option TypeDefinition
  | some condition => system.composite? condition
  | none => parent

end TypeSystem

/-- A place where something is selected. -/
inductive Site where
  | field (parent : Option TypeDefinition) (definition : Option FieldDefinition) (name : String)
      (arguments : Arguments) (directives : List Directive) (isNested : Bool)
  | spread (parent : Option TypeDefinition) (fragment : String) (directives : List Directive)
  | inline (parent : Option TypeDefinition) (condition : Option String)
      (directives : List Directive)

/-- Selections with the type that they are selected on. -/
structure TypedSelections where
  parent : Option TypeDefinition
  selections : List Selection

variable (system : TypeSystem)

mutual

/-- The places of a selection and of all selections in it. -/
def Selection.sites (parent : Option TypeDefinition) : Selection → List Site
  | .field _ name arguments directives selections =>
      let definition := parent.bind fun type => type.selectable? name
      .field parent definition name arguments directives (!selections.isEmpty) ::
        Selection.sitesOf (definition.bind fun field => system.composite? field.type.core)
          selections
  | .spread fragment directives => [.spread parent fragment directives]
  | .inline condition directives selections =>
      .inline parent condition directives ::
        Selection.sitesOf (system.narrowed parent condition) selections

def Selection.sitesOf (parent : Option TypeDefinition) : List Selection → List Site
  | [] => []
  | selection :: rest => selection.sites parent ++ Selection.sitesOf parent rest

end

mutual

/-- The selection sets within a selection. -/
def Selection.sets (parent : Option TypeDefinition) : Selection → List TypedSelections
  | .field _ name _ _ selections =>
      let definition := parent.bind fun type => type.selectable? name
      let inner := definition.bind fun field => system.composite? field.type.core
      ⟨inner, selections⟩ :: Selection.setsOf inner selections
  | .spread _ _ => []
  | .inline condition _ selections =>
      let inner := system.narrowed parent condition
      ⟨inner, selections⟩ :: Selection.setsOf inner selections

def Selection.setsOf (parent : Option TypeDefinition) : List Selection → List TypedSelections
  | [] => []
  | selection :: rest => selection.sets parent ++ Selection.setsOf parent rest

end

mutual

/-- The names of the fragments spread in a selection. -/
def Selection.spreads : Selection → List String
  | .field _ _ _ _ selections => Selection.spreadsOf selections
  | .spread fragment _ => [fragment]
  | .inline _ _ selections => Selection.spreadsOf selections

def Selection.spreadsOf : List Selection → List String
  | [] => []
  | selection :: rest => selection.spreads ++ Selection.spreadsOf rest

end

mutual

/-- The number of fields in a selection. -/
def Selection.fieldCount : Selection → Nat
  | .field _ _ _ _ selections => Selection.fieldCountOf selections + 1
  | .spread _ _ => 0
  | .inline _ _ selections => Selection.fieldCountOf selections

def Selection.fieldCountOf : List Selection → Nat
  | [] => 0
  | selection :: rest => selection.fieldCount + Selection.fieldCountOf rest

end

namespace Document

variable (document : Document)

/-- The top selections of all operations and fragments, each with its type. -/
def roots : List TypedSelections :=
  (document.operations.map fun operation =>
    ⟨system.root? operation.kind, operation.selections⟩) ++
  document.fragments.map fun fragment => ⟨system.composite? fragment.condition, fragment.selections⟩

def sites : List Site :=
  (document.roots system).flatMap fun root => Selection.sitesOf system root.parent root.selections

def sets : List TypedSelections :=
  (document.roots system).flatMap fun root =>
    root :: Selection.setsOf system root.parent root.selections

/-- The number of spreads in all fragments. -/
def spreadCount : Nat :=
  (document.fragments.flatMap fun fragment => Selection.spreadsOf fragment.selections).length

/-- The fragments that can be reached from some names, each once.  A step takes a name off the
pending ones; a fragment adds names only when it is first reached, which bounds the steps. -/
def reachFrom : Nat → List String → List String → List String
  | 0, _, reached => reached
  | _, [], reached => reached
  | steps + 1, name :: pending, reached =>
      if reached.contains name then reachFrom steps pending reached
      else
        match document.fragment? name with
        | none => reachFrom steps pending reached
        | some fragment =>
            reachFrom steps (Selection.spreadsOf fragment.selections ++ pending) (name :: reached)

/-- The names of the fragments that selections spread, directly or through other fragments. -/
def reachable (selections : List Selection) : List String :=
  let pending := Selection.spreadsOf selections
  document.reachFrom (pending.length + document.spreadCount + 1) pending []

end Document

end GraphGateway.Graphql
