import GraphGateway.Graphql.Token

/-!
Types as GraphQL text spells them: a name, a list of a type, or a type that excludes null.
-/
namespace GraphGateway.Graphql

/-- How deep lists, objects and selection sets may nest in a text. -/
def nestingLimit : Nat := 200

inductive TypeExpr where
  | named (name : String)
  | list (item : TypeExpr)
  | nonNull (inner : TypeExpr)
  deriving DecidableEq, Repr, Inhabited

namespace TypeExpr

/-- The text of a type. -/
def text : TypeExpr → String
  | .named name => name
  | .list item => "[" ++ item.text ++ "]"
  | .nonNull inner => inner.text ++ "!"

/-- The name at the core of a type. -/
def core : TypeExpr → String
  | .named name => name
  | .list item => item.core
  | .nonNull inner => inner.core

def isNonNull : TypeExpr → Bool
  | .nonNull _ => true
  | _ => false

/-- The type with its outermost exclusion of null taken off. -/
def nullable : TypeExpr → TypeExpr
  | .nonNull inner => inner
  | type => type

/-- Excludes null if an exclamation mark follows. -/
def withBang (type : TypeExpr) : List Token → TypeExpr × List Token
  | .bang :: rest => (.nonNull type, rest)
  | rest => (type, rest)

/-- The type at the head of the tokens, and the tokens after it.  Lists may nest as deep as the
number says. -/
def read? : Nat → List Token → Option (TypeExpr × List Token)
  | _, .name name :: rest => some (withBang (.named name) rest)
  | depth + 1, .bracketOpen :: rest =>
      match read? depth rest with
      | some (item, .bracketClose :: after) => some (withBang (.list item) after)
      | _ => none
  | _, _ => none

/-- The type that a whole text spells. -/
def ofText (text : String) : Except SyntaxFault TypeExpr := do
  let tokens ← Token.ofText text
  match read? nestingLimit tokens with
  | some (type, []) => pure type
  | _ => throw .malformed

end TypeExpr

end GraphGateway.Graphql
