import GraphGateway.Cypher.Expression
import GraphGateway.Schema.Model

/-!
Clauses of Cypher and their lines.  A subquery has its clauses indented by four blanks and sees only
the variables that it imports.
-/
namespace GraphGateway.Cypher

open Schema (Direction)

/-- A node; its variable may be empty. -/
structure NodePattern where
  name : String
  label : Option String
  deriving DecidableEq, Repr, Inhabited

def NodePattern.render (node : NodePattern) : String :=
  match node.label with
  | some label => s!"({node.name}:{escape label})"
  | none => s!"({node.name})"

/-- A relationship from a bound node to another one; its variable may be empty. -/
structure RelationshipPattern where
  source : String
  direction : Direction
  name : String
  label : String
  target : NodePattern
  deriving DecidableEq, Repr, Inhabited

def RelationshipPattern.render (pattern : RelationshipPattern) : String :=
  let relationship := s!"[{pattern.name}:{escape pattern.label}]"
  match pattern.direction with
  | .outgoing => s!"({pattern.source})-{relationship}->{pattern.target.render}"
  | .incoming => s!"({pattern.source})<-{relationship}-{pattern.target.render}"

inductive Pattern where
  | node (node : NodePattern)
  | relationship (relationship : RelationshipPattern)
  deriving DecidableEq, Repr, Inhabited

def Pattern.render : Pattern → String
  | node pattern => pattern.render
  | relationship pattern => pattern.render

/-- An expression, under a name of its own or under none. -/
structure Column where
  value : Expression
  name : Option String := none
  deriving Inhabited

def Column.render (column : Column) : String :=
  match column.name with
  | some name => column.value.render ++ " AS " ++ name
  | none => column.value.render

/-- A variable that keeps its name. -/
def Column.kept (name : String) : Column := { value := .variable name }

/-- An expression under a name. -/
def Column.as (value : Expression) (name : String) : Column := { value, name := some name }

inductive Clause where
  | find (pattern : Pattern)
  | findOptional (pattern : Pattern)
  | filter (conditions : List Expression)
  | create (pattern : Pattern)
  /-- The counter with a name, made if it is not there. -/
  | merge (counter label : String) (name : Expression)
  | set (assignments : List (Expression × Expression))
  | setOnCreate (target value : Expression)
  | carry (columns : List Column)
  | order (key : Expression)
  | limit (count : Expression)
  | unwind (items : Expression) (name : String)
  | answer (columns : List Column)
  | union
  | subquery (imports : List String) (body : List Clause)
  deriving Inhabited

def indent (line : String) : String := "    " ++ line

/-- The lines of a subquery with some imports and lines. -/
def subqueryLines (imports lines : List String) : List String :=
  "CALL \x7b" ::
    ((if imports.isEmpty then [] else [indent ("WITH " ++ ", ".intercalate imports)]) ++
      lines.map indent ++ ["\x7d"])

def filterText (conditions : List String) : String :=
  "WHERE " ++ " AND ".intercalate conditions

def assignmentText (assignment : Expression × Expression) : String :=
  assignment.1.render ++ " = " ++ assignment.2.render

def columnsText (columns : List Column) : String :=
  ", ".intercalate (columns.map Column.render)

mutual

/-- The lines of a clause. -/
def Clause.lines : Clause → List String
  | .find pattern => ["MATCH " ++ pattern.render]
  | .findOptional pattern => ["OPTIONAL MATCH " ++ pattern.render]
  | .filter conditions => [filterText (conditions.map Expression.render)]
  | .create pattern => ["CREATE " ++ pattern.render]
  | .merge counter label name =>
      [s!"MERGE ({counter}:{escape label} \x7bname: {name.render}\x7d)"]
  | .set assignments => ["SET " ++ ", ".intercalate (assignments.map assignmentText)]
  | .setOnCreate target value => ["ON CREATE SET " ++ assignmentText (target, value)]
  | .carry columns => ["WITH " ++ columnsText columns]
  | .order key => ["ORDER BY " ++ key.render ++ " ASC"]
  | .limit count => ["LIMIT " ++ count.render]
  | .unwind items name => ["UNWIND " ++ items.render ++ " AS " ++ name]
  | .answer columns => ["RETURN " ++ columnsText columns]
  | .union => ["UNION"]
  | .subquery imports body => subqueryLines imports (Clause.linesOf body)

def Clause.linesOf : List Clause → List String
  | [] => []
  | clause :: rest => clause.lines ++ Clause.linesOf rest

end

/-- The text of some clauses, a line after another. -/
def Clause.text (clauses : List Clause) : String :=
  "\n".intercalate (Clause.linesOf clauses)

/-- The filter of some conditions, if there are any. -/
def Clause.filtering (conditions : List Expression) : List Clause :=
  if conditions.isEmpty then [] else [.filter conditions]

/-- The assignments of some values, if there are any. -/
def Clause.setting (assignments : List (Expression × Expression)) : List Clause :=
  if assignments.isEmpty then [] else [.set assignments]

end GraphGateway.Cypher
