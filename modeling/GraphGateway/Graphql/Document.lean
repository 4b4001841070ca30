import GraphGateway.Graphql.TypeExpr

/-!
GraphQL documents: requests with their operations and fragments, and the declarations of a schema.
-/
namespace GraphGateway.Graphql

/-- A value as GraphQL text spells it.  Numbers keep their spelling. -/
inductive Literal where
  | variable (name : String)
  | int (spelling : String)
  | float (spelling : String)
  | string (content : String) (block : Bool)
  | boolean (flag : Bool)
  | null
  | enum (name : String)
  | list (items : List Literal)
  | object (fields : List (String × Literal))
  deriving Inhabited, Repr, BEq

/-- The field that names the type of every composite value. -/
def typenameName : String := "__typename"

abbrev Arguments := List (String × Literal)

structure Directive where
  name : String
  arguments : Arguments
  deriving Inhabited, Repr

/-- What a selection set asks for.  A field without selections has none in braces either. -/
inductive Selection where
  | field (key : Option String) (name : String) (arguments : Arguments)
      (directives : List Directive) (selections : List Selection)
  | spread (fragment : String) (directives : List Directive)
  | inline (condition : Option String) (directives : List Directive) (selections : List Selection)
  deriving Inhabited, Repr

inductive OperationKind where
  | query
  | mutation
  | subscription
  deriving DecidableEq, Repr

def OperationKind.text : OperationKind → String
  | .query => "query"
  | .mutation => "mutation"
  | .subscription => "subscription"

structure VariableDeclaration where
  name : String
  type : TypeExpr
  default : Option Literal
  directives : List Directive
  deriving Inhabited, Repr

structure Operation where
  kind : OperationKind
  name : Option String
  declarations : List VariableDeclaration
  directives : List Directive
  selections : List Selection
  deriving Repr

structure Fragment where
  name : String
  condition : String
  directives : List Directive
  selections : List Selection
  deriving Inhabited, Repr

structure FieldDeclaration where
  name : String
  type : TypeExpr
  directives : List Directive
  deriving Inhabited, Repr

/-- A declared object type or interface. -/
structure CompositeDeclaration where
  name : String
  directives : List Directive
  fields : List FieldDeclaration
  deriving Inhabited, Repr

structure EnumDeclaration where
  name : String
  values : List String
  deriving Inhabited, Repr

/-- Declarations that no graph type comes from. -/
inductive OtherDeclaration where
  | schema
  | union
  | input
  | directive
  | schemaExtension
  | scalarExtension
  | objectExtension
  | interfaceExtension
  | unionExtension
  | enumExtension
  | inputExtension
  deriving DecidableEq, Repr

def OtherDeclaration.kind : OtherDeclaration → String
  | .schema => "schema_definition"
  | .union => "union_type_definition"
  | .input => "input_object_type_definition"
  | .directive => "directive_definition"
  | .schemaExtension => "schema_extension"
  | .scalarExtension => "scalar_type_extension"
  | .objectExtension => "object_type_extension"
  | .interfaceExtension => "interface_type_extension"
  | .unionExtension => "union_type_extension"
  | .enumExtension => "enum_type_extension"
  | .inputExtension => "input_object_type_extension"

inductive Definition where
  | operation (operation : Operation)
  | fragment (fragment : Fragment)
  | object (declaration : CompositeDeclaration)
  | interface (declaration : CompositeDeclaration)
  | enum (declaration : EnumDeclaration)
  | scalar (name : String)
  | other (declaration : OtherDeclaration)
  deriving Repr

abbrev Document := List Definition

namespace Document

def operations (document : Document) : List Operation :=
  document.filterMap fun
    | .operation operation => some operation
    | _ => none

def fragments (document : Document) : List Fragment :=
  document.filterMap fun
    | .fragment fragment => some fragment
    | _ => none

/-- The fragment with a name; of several the last one. -/
def fragment? (document : Document) (name : String) : Option Fragment :=
  document.fragments.reverse.find? (·.name == name)

/-- The operation that a request means: the first one with the wanted name, or the only one of the
document if no name is wanted. -/
def operation? (document : Document) (wanted : Option String) : Option Operation :=
  match wanted with
  | some name => document.operations.find? fun operation => operation.name == some name
  | none =>
      match document.operations with
      | [operation] => some operation
      | _ => none

end Document

/-- The directive with a name among some; of several the first one. -/
def directive? (directives : List Directive) (name : String) : Option Directive :=
  directives.find? (·.name == name)

end GraphGateway.Graphql
