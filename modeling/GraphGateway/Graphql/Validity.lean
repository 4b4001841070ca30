import GraphGateway.Graphql.Introspection
import GraphGateway.Graphql.Legality
import GraphGateway.Graphql.LiteralFit
import GraphGateway.Graphql.Merging

/-!
Valid requests.  A request is valid under a type system if each of the rules below holds; nothing is
said of a place whose type is missing, as another rule refuses it.
-/
namespace GraphGateway.Graphql

/-- Directives that leave a selection out, with their one argument. -/
def conditionNames : List String := ["skip", "include"]

def conditionArgument : ArgumentDefinition := ⟨"if", requiredType "Boolean"⟩

namespace Site

def parent : Site → Option TypeDefinition
  | field parent _ _ _ _ _ => parent
  | spread parent _ _ => parent
  | inline parent _ _ => parent

def directives : Site → List Directive
  | field _ _ _ _ directives _ => directives
  | spread _ _ directives => directives
  | inline _ _ directives => directives

/-- The arguments that are given at a place, each with what may be given there. -/
def argumentSets : Site → List (Arguments × Option (List ArgumentDefinition))
  | site =>
      (match site with
        | field _ definition _ arguments _ _ =>
            [(arguments, definition.map FieldDefinition.arguments)]
        | _ => []) ++
      site.directives.map fun directive => (directive.arguments, some [conditionArgument])

/-- A leaf has nothing selected in it, and what is no leaf has. -/
def isWellNested (system : TypeSystem) : Site → Bool
  | field _ (some definition) _ _ _ isNested =>
      match system.kind? definition.type.core with
      | some kind => kind.isLeaf != isNested
      | none => true
  | _ => true

/-- A field is a field of its type. -/
def isKnownField : Site → Bool
  | field (some _) none _ _ _ _ => false
  | _ => true

/-- A condition names a composite type. -/
def isKnownCondition (system : TypeSystem) : Site → Bool
  | inline _ (some condition) _ => (system.composite? condition).isSome
  | _ => true

/-- Directives are known, and no one comes twice. -/
def hasKnownDirectives (site : Site) : Bool :=
  let names := site.directives.map Directive.name
  names.all conditionNames.contains && distinct names

/-- Whether two composite types have a value in common. -/
def overlaps (system : TypeSystem) (first second : TypeDefinition) : Bool :=
  (system.possibleTypes first).any fun object =>
    (system.possibleTypes second).any (·.name == object.name)

/-- A fragment may apply where it is spread. -/
def isPossible (system : TypeSystem) (document : Document) : Site → Bool
  | site =>
      let condition :=
        match site with
        | field _ _ _ _ _ _ => none
        | spread _ name _ => (document.fragment? name).map Fragment.condition
        | inline _ condition _ => condition
      match site.parent, condition.bind system.composite? with
      | some parent, some narrowed =>
          parent.name == narrowed.name || overlaps system parent narrowed
      | _, _ => true

def isKnownSpread (document : Document) : Site → Bool
  | spread _ name _ => (document.fragment? name).isSome
  | _ => true

/-- Arguments are known, come once, fit their types, and are there if they are required. -/
def hasGoodArguments (system : TypeSystem) (site : Site) : Bool :=
  site.argumentSets.all fun (given, definitions) =>
    distinct (given.map Prod.fst) && (given.all fun entry => entry.2.hasDistinctFields) &&
      match definitions with
      | none => true
      | some definitions =>
          (definitions.all fun definition =>
            !definition.isRequired || given.any fun entry => entry.1 == definition.name) &&
          given.all fun (name, literal) =>
            match definitions.find? (·.name == name) with
            | some definition => literal.fits system definition.type
            | none => false

/-- The variables that are used at a place. -/
def uses (system : TypeSystem) (site : Site) : List VariableUse :=
  site.argumentSets.flatMap fun (given, definitions) =>
    given.flatMap fun (name, literal) =>
      literal.uses system
        ((definitions.bind fun definitions => definitions.find? (·.name == name)).map
          ArgumentDefinition.type)

end Site

/-- Whether values of the first type are values of the second one. -/
def TypeExpr.isWithin : TypeExpr → TypeExpr → Bool
  | .nonNull first, .nonNull second => isWithin first second
  | .nonNull first, second => isWithin first second
  | .list first, .list second => isWithin first second
  | .named first, .named second => first == second
  | _, _ => false

/-- Whether a variable may stand where a type is wanted.  A default that is not null makes up for a
variable that may be null. -/
def VariableDeclaration.mayStand (declaration : VariableDeclaration) (wanted : TypeExpr) : Bool :=
  match wanted, declaration.type.isNonNull with
  | .nonNull inner, false =>
      (match declaration.default with
        | some .null => false
        | some _ => true
        | none => false) && declaration.type.isWithin inner
  | _, _ => declaration.type.isWithin wanted

namespace Operation

variable (system : TypeSystem) (document : Document)

/-- The variables that an operation uses, those in its fragments too. -/
def uses (operation : Operation) : List VariableUse :=
  let fragments := (document.reachable operation.selections).filterMap document.fragment?
  let places := Selection.sitesOf system (system.root? operation.kind) operation.selections ++
    fragments.flatMap fun fragment =>
      Selection.sitesOf system (system.composite? fragment.condition) fragment.selections
  places.flatMap (Site.uses system)

/-- Variables are declared once, with types of inputs that exist and defaults that fit. -/
def hasGoodDeclarations (operation : Operation) : Bool :=
  distinct (operation.declarations.map VariableDeclaration.name) &&
    operation.declarations.all fun declaration =>
      declaration.directives.isEmpty &&
      (match system.kind? declaration.type.core with
        | some kind => kind.isInput
        | none => false) &&
      match declaration.default with
      | some literal => literal.hasDistinctFields && literal.fits system declaration.type
      | none => true

/-- Every declared variable is used, every used one is declared, and each stands where it may. -/
def hasGoodUses (operation : Operation) : Bool :=
  let uses := operation.uses system document
  (operation.declarations.all fun declaration => uses.any (·.name == declaration.name)) &&
    uses.all fun use =>
      match operation.declarations.find? (·.name == use.name) with
      | none => false
      | some declaration =>
          match use.wanted with
          | some wanted => declaration.mayStand wanted
          | none => true

end Operation

namespace Document

variable (system : TypeSystem) (document : Document)

/-- Only operations and fragments are requested. -/
def isExecutable : Bool :=
  document.all fun
    | .operation _ => true
    | .fragment _ => true
    | _ => false

/-- Operations have names of their own, or there is only one. -/
def hasGoodOperationNames : Bool :=
  distinct (document.operations.filterMap Operation.name) &&
    (document.operations.length ≤ 1 || document.operations.all fun operation =>
      operation.name.isSome)

/-- Fragments have names of their own, are on composite types, are used, and do not reach
themselves. -/
def hasGoodFragments : Bool :=
  let used := document.operations.flatMap fun operation => document.reachable operation.selections
  distinct (document.fragments.map Fragment.name) &&
    document.fragments.all fun fragment =>
      fragment.directives.isEmpty && (system.composite? fragment.condition).isSome &&
        used.contains fragment.name &&
        !(document.reachable fragment.selections).contains fragment.name

/-- The fragments that are spread a number of steps below some names, each once. -/
def spreadBelow (names : List String) : Nat → List String
  | 0 => names
  | steps + 1 =>
      let spread := (names.filterMap document.fragment?).flatMap fun fragment =>
        Selection.spreadsOf fragment.selections
      spreadBelow spread.eraseDups steps

/-- Whether fragments spread in each other as deep as a text may nest.  Such a request is not
checked to its end. -/
def isOverlong : Bool :=
  document.operations.any fun operation =>
    !(document.spreadBelow (Selection.spreadsOf operation.selections).eraseDups
      (nestingLimit - 1)).isEmpty

/-- Whether a document is a valid request. -/
def isValid : Bool :=
  document.isExecutable && document.hasGoodOperationNames && document.hasGoodFragments system &&
    (document.operations.all fun operation =>
      operation.directives.isEmpty && operation.hasGoodDeclarations system) &&
    ((document.sites system).all fun site =>
      site.isWellNested system && site.isKnownField && site.isKnownCondition system &&
        site.hasKnownDirectives && site.isPossible system document &&
        site.isKnownSpread document && site.hasGoodArguments system) &&
    (document.operations.all fun operation => operation.hasGoodUses system document) &&
    document.merges system && document.hasShallowIntrospection

end Document

end GraphGateway.Graphql
