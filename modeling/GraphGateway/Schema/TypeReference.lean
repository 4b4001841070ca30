import GraphGateway.Graphql.TypeExpr

/-!
Types of fields in a base schema: a name or a list of a name, each of which may exclude null.
-/
namespace GraphGateway.Schema

open Graphql (TypeExpr)

structure TypeReference where
  name : String
  nonNull : Bool := false
  isList : Bool := false
  itemNonNull : Bool := false
  deriving DecidableEq, Repr, Inhabited

namespace TypeReference

/-- Excludes null from a type if asked to. -/
def excludingNull (exclude : Bool) (type : TypeExpr) : TypeExpr :=
  if exclude then .nonNull type else type

/-- The type that a reference stands for. -/
def toExpr (reference : TypeReference) : TypeExpr :=
  let core := TypeExpr.named reference.name
  let shaped :=
    if reference.isList then .list (excludingNull reference.itemNonNull core) else core
  excludingNull reference.nonNull shaped

/-- The reference to a type below a perhaps excluded null; nothing for a list of lists. -/
def ofNullable? (nonNull : Bool) : TypeExpr → Option TypeReference
  | .named name => some { name, nonNull }
  | .list (.named name) => some { name, nonNull, isList := true }
  | .list (.nonNull (.named name)) => some { name, nonNull, isList := true, itemNonNull := true }
  | _ => none

/-- The reference to a type, if the type is no list of lists. -/
def ofExpr? : TypeExpr → Option TypeReference
  | .nonNull inner => ofNullable? true inner
  | type => ofNullable? false type

/-- The text of the type, such as `[Actor!]!`. -/
def text (reference : TypeReference) : String :=
  reference.toExpr.text

/-- The reference without its outermost exclusion of null. -/
def asOptional (reference : TypeReference) : TypeReference :=
  { reference with nonNull := false }

def nestedListReason : String := "Nested list types are not supported"

end TypeReference

end GraphGateway.Schema
