import GraphGateway.Cypher.Quoted

/-!
Expressions of Cypher.  Values stand in them as parameters only; keys of maps and stored properties
are quoted names.
-/
namespace GraphGateway.Cypher

inductive Comparison where
  | equal
  | above
  | atMost
  deriving DecidableEq, Repr

def Comparison.sign : Comparison → String
  | equal => "="
  | above => ">"
  | atMost => "<="

inductive Expression where
  | variable (name : String)
  | parameter (name : String)
  /-- A stored property of a node or a relationship. -/
  | property (owner key : String)
  /-- The value of a counter. -/
  | counted (counter : String)
  | number (value : Nat)
  | text (content : String)
  | no
  | freshIdentifier
  | compare (relation : Comparison) (first second : Expression)
  | isMissing (item : Expression)
  | isPresent (item : Expression)
  | plus (first second : Expression)
  | map (entries : List (String × Expression))
  | list (items : List Expression)
  /-- A map with the path of an entry and the number of its matches. -/
  | report (path matched : Expression)
  | collect (item : Expression)
  | head (items : Expression)
  | count (item : Expression)
  /-- The positions of a list, counted from zero. -/
  | positions (items : Expression)
  | at (items position : Expression)
  deriving Inhabited

/-- Entries of a map with quoted keys. -/
def mapText (entries : List (String × String)) : String :=
  let body := ", ".intercalate (entries.map fun (key, value) => escape key ++ ": " ++ value)
  "\x7b" ++ body ++ "\x7d"

mutual

/-- The text of an expression. -/
def Expression.render : Expression → String
  | .variable name => name
  | .parameter name => "$" ++ name
  | .property owner key => owner ++ "." ++ escape key
  | .counted counter => counter ++ ".value"
  | .number value => toString value
  | .text content => quote content
  | .no => "false"
  | .freshIdentifier => "randomUUID()"
  | .compare relation first second => first.render ++ " " ++ relation.sign ++ " " ++ second.render
  | .isMissing item => item.render ++ " IS NULL"
  | .isPresent item => item.render ++ " IS NOT NULL"
  | .plus first second => first.render ++ " + " ++ second.render
  | .map entries => mapText (Expression.renderEntries entries)
  | .list items => "[" ++ ", ".intercalate (Expression.renderItems items) ++ "]"
  | .report path matched =>
      "[\x7bpath: " ++ path.render ++ ", matched: " ++ matched.render ++ "\x7d]"
  | .collect item => "collect(" ++ item.render ++ ")"
  | .head items => "head(" ++ items.render ++ ")"
  | .count item => "count(" ++ item.render ++ ")"
  | .positions items => "range(0, size(" ++ items.render ++ ") - 1)"
  | .at items position => items.render ++ "[" ++ position.render ++ "]"

def Expression.renderItems : List Expression → List String
  | [] => []
  | item :: rest => item.render :: Expression.renderItems rest

def Expression.renderEntries : List (String × Expression) → List (String × String)
  | [] => []
  | (key, item) :: rest => (key, item.render) :: Expression.renderEntries rest

end

/-- The lists of some variables one after another. -/
def concatenation : List String → Expression
  | [] => .list []
  | name :: rest => rest.foldl (fun sum next => .plus sum (.variable next)) (.variable name)

end GraphGateway.Cypher
