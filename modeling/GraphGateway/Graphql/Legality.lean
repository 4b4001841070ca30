import GraphGateway.Graphql.TypeSystem

/-!
Legal type systems.  A hollow definition cannot be spelt; names that are told twice, refer to
nothing or to the wrong kind of type cannot be built; and names that start with two underscores or
root types that are no objects bar every request.
-/
namespace GraphGateway.Graphql

inductive TypeSystemFault where
  /-- A definition with nothing between its braces. -/
  | hollow
  | unbuildable
  /-- A type system that was built but answers no request. -/
  | unservable
  deriving DecidableEq, Repr

def distinct (names : List String) : Bool :=
  match names with
  | [] => true
  | name :: rest => !rest.contains name && distinct rest

def isReservedName (name : String) : Bool :=
  match name.toList with
  | '_' :: '_' :: _ => true
  | _ => false

namespace TypeSystem

variable (system : TypeSystem)

/-- Whether the core of a type is of a kind. -/
def refersTo (fits : TypeKind → Bool) (type : TypeExpr) : Bool :=
  match system.kind? type.core with
  | some kind => fits kind
  | none => false

def isKnown (type : TypeExpr) : Bool :=
  isStandardName type.core || system.refersTo (fun _ => true) type

/-- Whether the names in a definition are told once each and refer to types. -/
def isWellNamed (type : TypeDefinition) : Bool :=
  distinct (type.fields.map FieldDefinition.name) && distinct type.values &&
    (type.fields.all fun field =>
      distinct (field.arguments.map ArgumentDefinition.name) && system.isKnown field.type &&
        field.arguments.all fun argument => system.isKnown argument.type) &&
    type.interfaces.all fun name => system.isKnown (.named name)

/-- Whether fields, arguments and interfaces of a definition refer to types of the right kind. -/
def isWellKinded (type : TypeDefinition) : Bool :=
  let fits : TypeKind → Bool :=
    if type.kind = .input then TypeKind.isInput else TypeKind.isOutput
  (type.fields.all fun field =>
    system.refersTo fits field.type &&
      field.arguments.all fun argument => system.refersTo TypeKind.isInput argument.type) &&
    type.interfaces.all fun name => system.refersTo (· == .interface) (.named name)

/-- Whether no name in a definition is reserved. -/
def hasOpenNames (type : TypeDefinition) : Bool :=
  !isReservedName type.name &&
    (type.fields.all fun field =>
      !isReservedName field.name &&
        field.arguments.all fun argument => !isReservedName argument.name) &&
    type.values.all (!isReservedName ·)

/-- Whether a root type is an object type, if it is there. -/
def isRootObject (name : String) : Bool :=
  match system.definition? name with
  | some type => type.kind == .object
  | none => true

/-- Refuses a type system that cannot be built. -/
def build : Except TypeSystemFault Unit :=
  if system.definitions.any TypeDefinition.isHollow then .error .hollow
  else if system.definitions.all system.isWellNamed && system.own.all system.isWellKinded then
    .ok ()
  else .error .unbuildable

/-- Whether requests can be answered at all. -/
def isServable : Bool :=
  system.own.all hasOpenNames &&
    [queryName, mutationName, subscriptionName].all system.isRootObject

end TypeSystem

end GraphGateway.Graphql
