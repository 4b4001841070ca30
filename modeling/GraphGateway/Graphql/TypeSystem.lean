import GraphGateway.Graphql.TypeExpr

/-!
Type systems: the definitions of object types, interfaces, inputs, enums and scalars, and the text
of each definition.
-/
namespace GraphGateway.Graphql

inductive TypeKind where
  | object
  | interface
  | input
  | enum
  | scalar
  deriving DecidableEq, Repr, Inhabited

namespace TypeKind

/-- The name of the kind. -/
def text : TypeKind → String
  | object => "object"
  | interface => "interface"
  | input => "input"
  | enum => "enum"
  | scalar => "scalar"

/-- The word that a definition of the kind starts with. -/
def keyword : TypeKind → String
  | object => "type"
  | kind => kind.text

/-- Whether values of the kind have fields to select. -/
def isComposite : TypeKind → Bool
  | object => true
  | interface => true
  | _ => false

/-- Whether values of the kind are selected whole. -/
def isLeaf : TypeKind → Bool
  | enum => true
  | scalar => true
  | _ => false

/-- Whether arguments may be of the kind. -/
def isInput (kind : TypeKind) : Bool := kind.isLeaf || kind == .input

/-- Whether fields may be of the kind. -/
def isOutput (kind : TypeKind) : Bool := kind.isLeaf || kind.isComposite

end TypeKind

structure ArgumentDefinition where
  name : String
  type : TypeExpr
  deriving DecidableEq, Repr, Inhabited

def ArgumentDefinition.text (argument : ArgumentDefinition) : String :=
  s!"{argument.name}: {argument.type.text}"

/-- An argument that has to be given. -/
def ArgumentDefinition.isRequired (argument : ArgumentDefinition) : Bool :=
  argument.type.isNonNull

structure FieldDefinition where
  name : String
  type : TypeExpr
  arguments : List ArgumentDefinition := []
  deriving DecidableEq, Repr, Inhabited

namespace FieldDefinition

def text (field : FieldDefinition) : String :=
  if field.arguments.isEmpty then s!"{field.name}: {field.type.text}"
  else
    let arguments := ", ".intercalate (field.arguments.map ArgumentDefinition.text)
    s!"{field.name}({arguments}): {field.type.text}"

def argument? (field : FieldDefinition) (name : String) : Option ArgumentDefinition :=
  field.arguments.find? (·.name == name)

end FieldDefinition

structure TypeDefinition where
  kind : TypeKind
  name : String
  fields : List FieldDefinition := []
  interfaces : List String := []
  values : List String := []
  deriving DecidableEq, Repr, Inhabited

namespace TypeDefinition

def field? (type : TypeDefinition) (name : String) : Option FieldDefinition :=
  type.fields.find? (·.name == name)

/-- Lines in braces after a header, each on a line of its own. -/
def block (header : String) (lines : List String) : String :=
  header ++ " \x7b\n" ++ "\n".intercalate (lines.map ("  " ++ ·)) ++ "\n\x7d"

/-- The text of the definition. -/
def text (type : TypeDefinition) : String :=
  let header := type.kind.keyword ++ " " ++ type.name
  match type.kind with
  | .scalar => header
  | .enum => block header type.values
  | _ =>
      let interfaces :=
        if type.interfaces.isEmpty then "" else " implements " ++ " & ".intercalate type.interfaces
      block (header ++ interfaces) (type.fields.map FieldDefinition.text)

/-- Whether the braces of the definition would hold nothing. -/
def isHollow (type : TypeDefinition) : Bool :=
  match type.kind with
  | .scalar => false
  | .enum => type.values.isEmpty
  | _ => type.fields.isEmpty

end TypeDefinition

def namedType (name : String) : TypeExpr := .named name

def requiredType (name : String) : TypeExpr := .nonNull (.named name)

/-- A list without nulls that is not null itself. -/
def requiredList (name : String) : TypeExpr := .nonNull (.list (.nonNull (.named name)))

/-- A list without nulls. -/
def optionalList (name : String) : TypeExpr := .list (.nonNull (.named name))

/-- The scalars that every type system has. -/
def standardScalars : List TypeDefinition :=
  ["String", "Int", "Float", "Boolean", "ID"].map fun name => { kind := .scalar, name }

/-- The types that describe a type system itself. -/
def introspectionTypes : List TypeDefinition :=
  let text := namedType "String"
  let requiredText := requiredType "String"
  let flag := requiredType "Boolean"
  let deprecated : List ArgumentDefinition := [⟨"includeDeprecated", namedType "Boolean"⟩]
  [{ kind := .object, name := "__Schema",
     fields := [⟨"description", text, []⟩, ⟨"types", requiredList "__Type", []⟩,
       ⟨"queryType", requiredType "__Type", []⟩, ⟨"mutationType", namedType "__Type", []⟩,
       ⟨"subscriptionType", namedType "__Type", []⟩,
       ⟨"directives", requiredList "__Directive", []⟩] },
   { kind := .object, name := "__Directive",
     fields := [⟨"name", requiredText, []⟩, ⟨"description", text, []⟩,
       ⟨"isRepeatable", flag, []⟩, ⟨"locations", requiredList "__DirectiveLocation", []⟩,
       ⟨"args", requiredList "__InputValue", deprecated⟩] },
   { kind := .enum, name := "__DirectiveLocation",
     values := ["QUERY", "MUTATION", "SUBSCRIPTION", "FIELD", "FRAGMENT_DEFINITION",
       "FRAGMENT_SPREAD", "INLINE_FRAGMENT", "VARIABLE_DEFINITION", "SCHEMA", "SCALAR", "OBJECT",
       "FIELD_DEFINITION", "ARGUMENT_DEFINITION", "INTERFACE", "UNION", "ENUM", "ENUM_VALUE",
       "INPUT_OBJECT", "INPUT_FIELD_DEFINITION"] },
   { kind := .object, name := "__Type",
     fields := [⟨"kind", requiredType "__TypeKind", []⟩, ⟨"name", text, []⟩,
       ⟨"description", text, []⟩, ⟨"specifiedByURL", text, []⟩,
       ⟨"fields", optionalList "__Field", deprecated⟩,
       ⟨"interfaces", optionalList "__Type", []⟩, ⟨"possibleTypes", optionalList "__Type", []⟩,
       ⟨"enumValues", optionalList "__EnumValue", deprecated⟩,
       ⟨"inputFields", optionalList "__InputValue", deprecated⟩,
       ⟨"ofType", namedType "__Type", []⟩, ⟨"isOneOf", namedType "Boolean", []⟩] },
   { kind := .object, name := "__Field",
     fields := [⟨"name", requiredText, []⟩, ⟨"description", text, []⟩,
       ⟨"args", requiredList "__InputValue", deprecated⟩, ⟨"type", requiredType "__Type", []⟩,
       ⟨"isDeprecated", flag, []⟩, ⟨"deprecationReason", text, []⟩] },
   { kind := .object, name := "__InputValue",
     fields := [⟨"name", requiredText, []⟩, ⟨"description", text, []⟩,
       ⟨"type", requiredType "__Type", []⟩, ⟨"defaultValue", text, []⟩,
       ⟨"isDeprecated", flag, []⟩, ⟨"deprecationReason", text, []⟩] },
   { kind := .object, name := "__EnumValue",
     fields := [⟨"name", requiredText, []⟩, ⟨"description", text, []⟩,
       ⟨"isDeprecated", flag, []⟩, ⟨"deprecationReason", text, []⟩] },
   { kind := .enum, name := "__TypeKind",
     values := ["SCALAR", "OBJECT", "INTERFACE", "UNION", "ENUM", "INPUT_OBJECT", "LIST",
       "NON_NULL"] }]

/-- The types whose names stand for themselves in every type system. -/
def standardTypes : List TypeDefinition := standardScalars ++ introspectionTypes

def isStandardName (name : String) : Bool := standardTypes.any (·.name == name)

/-- The definitions of a type system besides the standard ones. -/
structure TypeSystem where
  definitions : List TypeDefinition
  deriving DecidableEq, Repr, Inhabited

namespace TypeSystem

variable (system : TypeSystem)

/-- The definitions with names of their own. -/
def own : List TypeDefinition :=
  system.definitions.filter fun type => !isStandardName type.name

/-- Whether a definition, a field or an argument has the name or the type of a scalar. -/
def usesScalar (name : String) : Bool :=
  (system.definitions.any (·.name == name)) ||
    system.own.any fun type => type.fields.any fun field =>
      field.type.core == name || field.arguments.any (·.type.core == name)

/-- The standard types that are there: those that introspection needs, and the scalars in use. -/
def standard : List TypeDefinition :=
  standardTypes.filter fun type =>
    type.kind != .scalar || type.name == "String" || type.name == "Boolean" ||
      system.usesScalar type.name

/-- The type that a name stands for: a standard one before a defined one. -/
def type? (name : String) : Option TypeDefinition :=
  if isStandardName name then system.standard.find? (·.name == name)
  else system.definitions.find? (·.name == name)

/-- The definition with a name, standard types aside. -/
def definition? (name : String) : Option TypeDefinition :=
  system.definitions.find? (·.name == name)

def kind? (name : String) : Option TypeKind :=
  (system.type? name).map TypeDefinition.kind

def queryName : String := "Query"

def mutationName : String := "Mutation"

def subscriptionName : String := "Subscription"

/-- Whether values of a composite type may be of an object type. -/
def admits (type object : TypeDefinition) : Bool :=
  type.name == object.name || (type.kind == .interface && object.interfaces.contains type.name)

/-- The object types whose values a composite type may have. -/
def possibleTypes (type : TypeDefinition) : List TypeDefinition :=
  if type.kind = .object then [type]
  else system.own.filter fun object => object.kind == .object && admits type object

/-- All definitions, those under standard names too. -/
def fullText : String :=
  "\n\n".intercalate (system.definitions.map TypeDefinition.text) ++ "\n"

/-- The definitions with names of their own. -/
def text : String :=
  "\n\n".intercalate (system.own.map TypeDefinition.text)

end TypeSystem

end GraphGateway.Graphql
