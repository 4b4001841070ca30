import GraphGateway.Graphql.LiteralValue
import GraphGateway.Graphql.Site

/-!
Which literals fit a type.  A single value fits a list of its type.  Variables fit here; their types
are compared where they are used.
-/
namespace GraphGateway.Graphql

/-- Whether a whole number fits into 32 bits. -/
def fitsInt32 (number : Int) : Bool := -0x80000000 ≤ number && number < 0x80000000

/-- The whole number that a literal spells. -/
def wholeValue? (spelling : String) : Option Int :=
  match numberValue spelling with
  | .int number => some number
  | _ => none

/-- Whether a literal that is no variable fits a scalar or an enum. -/
def Literal.fitsLeaf (type : TypeDefinition) (literal : Literal) : Bool :=
  match type.kind, type.name, literal with
  | .enum, _, .enum name => type.values.contains name
  | .enum, _, _ => false
  | .scalar, "Int", .int spelling =>
      match wholeValue? spelling with
      | some number => fitsInt32 number
      | none => false
  | .scalar, "Int", _ => false
  | .scalar, "Float", .int _ => true
  | .scalar, "Float", .float _ => true
  | .scalar, "Float", _ => false
  | .scalar, "String", .string _ _ => true
  | .scalar, "String", _ => false
  | .scalar, "Boolean", .boolean _ => true
  | .scalar, "Boolean", _ => false
  | .scalar, "ID", .string _ _ => true
  | .scalar, "ID", .int _ => true
  | .scalar, "ID", _ => false
  | .scalar, _, _ => true
  | _, _, _ => false

/-- The type of the items where a list stands: a type that is no list holds them itself. -/
def TypeExpr.itemType (type : TypeExpr) : TypeExpr :=
  match type.nullable with
  | .list item => item
  | other => other

def TypeExpr.isList (type : TypeExpr) : Bool :=
  match type.nullable with
  | .list _ => true
  | _ => false

variable (system : TypeSystem)

/-- Whether a literal fits the leaf at the core of a type. -/
def Literal.fitsCore (type : TypeExpr) (literal : Literal) : Bool :=
  match system.type? type.core with
  | some core => core.kind.isLeaf && literal.fitsLeaf core
  | none => false

/-- The input type at the core of a type. -/
def TypeSystem.input? (type : TypeExpr) : Option TypeDefinition :=
  (system.type? type.core).filter (·.kind == .input)

mutual

/-- Whether a literal fits a type.  Objects give every required field and no unknown one. -/
def Literal.fits (type : TypeExpr) : Literal → Bool
  | .variable _ => true
  | .null => !type.isNonNull
  | .list items =>
      if type.isList then Literal.allFit type.itemType items
      else (Literal.list items).fitsCore system type
  | .object fields =>
      match system.input? type with
      | some input =>
          (input.fields.all fun field =>
            !field.type.isNonNull || fields.any fun entry => entry.1 == field.name) &&
          Literal.fieldsFit input fields
      | none => (Literal.object fields).fitsCore system type
  | literal => literal.fitsCore system type

def Literal.allFit (type : TypeExpr) : List Literal → Bool
  | [] => true
  | item :: rest => item.fits type && Literal.allFit type rest

def Literal.fieldsFit (input : TypeDefinition) : List (String × Literal) → Bool
  | [] => true
  | (name, item) :: rest =>
      (match input.field? name with
        | some field => item.fits field.type
        | none => false) && Literal.fieldsFit input rest

end

mutual

/-- Whether no object in a literal gives a field twice. -/
def Literal.hasDistinctFields : Literal → Bool
  | .list items => Literal.allDistinct items
  | .object fields =>
      (fields.map Prod.fst).eraseDups.length == fields.length && Literal.fieldsDistinct fields
  | _ => true

def Literal.allDistinct : List Literal → Bool
  | [] => true
  | item :: rest => item.hasDistinctFields && Literal.allDistinct rest

def Literal.fieldsDistinct : List (String × Literal) → Bool
  | [] => true
  | (_, item) :: rest => item.hasDistinctFields && Literal.fieldsDistinct rest

end

/-- A variable where it is used, with the type that is wanted there. -/
structure VariableUse where
  name : String
  wanted : Option TypeExpr

mutual

/-- The variables in a literal that stands where a type is wanted. -/
def Literal.uses (wanted : Option TypeExpr) : Literal → List VariableUse
  | .variable name => [⟨name, wanted⟩]
  | .list items => Literal.usesOf (wanted.map TypeExpr.itemType) items
  | .object fields => Literal.fieldUses (wanted.bind system.input?) fields
  | _ => []

def Literal.usesOf (wanted : Option TypeExpr) : List Literal → List VariableUse
  | [] => []
  | item :: rest => item.uses wanted ++ Literal.usesOf wanted rest

def Literal.fieldUses (input : Option TypeDefinition) : List (String × Literal) → List VariableUse
  | [] => []
  | (name, item) :: rest =>
      item.uses (input.bind fun type => (type.field? name).map FieldDefinition.type) ++
        Literal.fieldUses input rest

end

end GraphGateway.Graphql
