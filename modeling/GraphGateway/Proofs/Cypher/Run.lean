import GraphGateway.Proofs.Cypher.Scope

/-!
Runs of clauses.  Clauses run over rows, which give variables their values, one clause after another
over all rows: what finds multiplies the rows, what creates or assigns changes the database for each
row in turn, and a subquery runs its body for each row and joins what the body answers.  Columns that
aggregate make one row of each group of rows that agree in the other columns, and a single row if
there are no others, even of no rows.

What the database holds is left open: nodes and relationships are values that only the database can
tell from others, and a name stands for at most one counter of a label.
-/
namespace GraphGateway.Cypher

open Schema (Direction)

/-- The values of variables. -/
abbrev Row := Entries Value

/-- What a run asks of a database with states of some type. -/
structure Database (σ : Type) where
  /-- The nodes with a label, or all nodes. -/
  nodes : Option String → σ → List Value
  /-- The relationships of a node in a direction, each with the node at its other end. -/
  related : Value → Direction → String → Option String → σ → List (Value × Value)
  makeNode : Option String → σ → Value × σ
  makeRelationship : Value → Direction → String → Value → σ → Value × σ
  /-- The one counter with a label and a name, made if it is not there. -/
  counter : String → Value → σ → Value × σ
  /-- Whether a counter was made when it was last asked for. -/
  isNew : Value → σ → Bool
  property : Value → String → σ → Value
  store : Value → String → Value → σ → σ
  identifier : σ → Value
  compare : Comparison → Value → Value → Value
  add : Value → Value → Value
  /-- Whether a value may stand before another one in an order. -/
  before : Value → Value → Bool
  /-- Whether two values count as one where rows are grouped. -/
  same : Value → Value → Bool

/-- The property that the number of a counter is stored in. -/
def countedKey : String := "value"

mutual

/-- Whether an expression is about a group of rows. -/
def Expression.aggregates : Expression → Bool
  | .collect _ => true
  | .count _ => true
  | .compare _ first second => first.aggregates || second.aggregates
  | .isMissing item => item.aggregates
  | .isPresent item => item.aggregates
  | .plus first second => first.aggregates || second.aggregates
  | .map entries => Expression.anyEntryAggregates entries
  | .list items => Expression.anyAggregates items
  | .report path matched => path.aggregates || matched.aggregates
  | .head items => items.aggregates
  | .positions items => items.aggregates
  | .at items position => items.aggregates || position.aggregates
  | _ => false

def Expression.anyAggregates : List Expression → Bool
  | [] => false
  | item :: rest => item.aggregates || Expression.anyAggregates rest

def Expression.anyEntryAggregates : List (String × Expression) → Bool
  | [] => false
  | (_, item) :: rest => item.aggregates || Expression.anyEntryAggregates rest

end

/-- A list of values; nothing else has items. -/
def itemsIn : Value → List Value
  | .list items => items
  | _ => []

section

variable {σ : Type} (db : Database σ) (parameters : Entries Value)

/-- What a property of a variable holds; null has no properties. -/
def Database.read (row : Row) (owner key : String) (state : σ) : Value :=
  match row.get? owner with
  | none | some .null => .null
  | some entity => db.property entity key state

/-- The sum of two values; lists are joined. -/
def Database.sum : Value → Value → Value
  | .list first, .list second => .list (first ++ second)
  | first, second => db.add first second

mutual

/-- The value of an expression for a row, which stands for a group of rows. -/
def Expression.value (state : σ) (group : List Row) (row : Row) : Expression → Value
  | .variable name => (row.get? name).getD .null
  | .parameter name => (parameters.get? name).getD .null
  | .property owner key => db.read row owner key state
  | .counted counter => db.read row counter countedKey state
  | .number size => .int size
  | .text content => Value.text content
  | .no => .bool false
  | .freshIdentifier => db.identifier state
  | .compare relation first second =>
      db.compare relation (first.value state group row) (second.value state group row)
  | .isMissing item => .bool (item.value state group row).isNull
  | .isPresent item => .bool (!(item.value state group row).isNull)
  | .plus first second => db.sum (first.value state group row) (second.value state group row)
  | .map entries => .object (Expression.entryValues state group row entries)
  | .list items => .list (Expression.values state group row items)
  | .report path matched =>
      .list [.object [("path", path.value state group row),
        ("matched", matched.value state group row)]]
  | .collect item =>
      .list ((group.map fun one => item.value state [one] one).filter fun value => !value.isNull)
  | .head items => (itemsIn (items.value state group row)).headD .null
  | .count item =>
      .int ((group.map fun one => item.value state [one] one).countP fun value => !value.isNull)
  | .positions items =>
      .list ((List.range (itemsIn (items.value state group row)).length).map fun index : Nat => .int index)
  | .at items position =>
      match position.value state group row with
      | .int (.ofNat index) => (itemsIn (items.value state group row)).getD index .null
      | _ => .null

def Expression.values (state : σ) (group : List Row) (row : Row) : List Expression → List Value
  | [] => []
  | item :: rest => item.value state group row :: Expression.values state group row rest

def Expression.entryValues (state : σ) (group : List Row) (row : Row) :
    List (String × Expression) → Entries Value
  | [] => []
  | (key, item) :: rest =>
      (key, item.value state group row) :: Expression.entryValues state group row rest

end

/-- The value of an expression for one row. -/
def Row.value (state : σ) (row : Row) (expression : Expression) : Value :=
  expression.value db parameters state [row] row

/-- Whether all conditions are true of a row. -/
def Row.satisfies (state : σ) (conditions : List Expression) (row : Row) : Bool :=
  conditions.all fun condition => (row.value db parameters state condition) matches .bool true

/-- A row with a value for a variable; an empty name is none. -/
def Row.bind (row : Row) (name : String) (value : Value) : Row :=
  if name = "" then row else (name, value) :: row

/-- The rows that a pattern makes of a row. -/
def Database.extensions (state : σ) (row : Row) : Pattern → List Row
  | .node pattern => (db.nodes pattern.label state).map (row.bind pattern.name)
  | .relationship pattern =>
      match row.get? pattern.source with
      | none | some .null => []
      | some source =>
          (db.related source pattern.direction pattern.label pattern.target.label state).map
            fun (relationship, target) =>
              (row.bind pattern.name relationship).bind pattern.target.name target

/-- The rows that a pattern makes of a row under some conditions, or the row with nulls if there are
none. -/
def Database.optional (state : σ) (row : Row) (pattern : Pattern) (conditions : List Expression) :
    List Row :=
  match (db.extensions state row pattern).filter (Row.satisfies db parameters state conditions) with
  | [] => [pattern.matched.foldl (fun row name => row.bind name .null) row]
  | found => found

/-- Creates what a pattern tells for a row. -/
def Database.make (row : Row) : Pattern → σ → Row × σ
  | .node pattern, state =>
      let (node, after) := db.makeNode pattern.label state
      (row.bind pattern.name node, after)
  | .relationship pattern, state =>
      let source := (row.get? pattern.source).getD .null
      let target := (row.get? pattern.target.name).getD .null
      let (relationship, after) :=
        db.makeRelationship source pattern.direction pattern.label target state
      (row.bind pattern.name relationship, after)

/-- Stores a value under what it is assigned to; null has no properties. -/
def Database.assign (row : Row) (target : Expression) (value : Value) (state : σ) : σ :=
  match target with
  | .property owner key => storeIn owner key
  | .counted counter => storeIn counter countedKey
  | _ => state
where
  storeIn (owner key : String) : σ :=
    match row.get? owner with
    | none | some .null => state
    | some entity => db.store entity key value state

/-- Makes assignments for a row, each in the state that the ones before it leave. -/
def Row.assigned (row : Row) (assignments : List (Expression × Expression)) (state : σ) : σ :=
  assignments.foldl (fun state assignment =>
    db.assign row assignment.1 (row.value db parameters state assignment.2) state) state

/-- The rows with a group that they belong to, among the groups so far. -/
def Database.grouped (keys : Row → List Value) : List Row → List (List Row) → List (List Row)
  | [], groups => groups
  | row :: rest, groups =>
      let agrees (group : List Row) : Bool :=
        match group with
        | [] => false
        | first :: _ => ((keys first).zip (keys row)).all fun (one, other) => db.same one other
      if groups.any agrees then
        grouped keys rest (groups.map fun group => if agrees group then group ++ [row] else group)
      else grouped keys rest (groups ++ [[row]])

/-- The values of columns for a row that stands for a group. -/
def Column.row (columns : List Column) (state : σ) (group : List Row) (row : Row) : Row :=
  columns.filterMap fun column =>
    column.key?.map fun name => (name, column.value.value db parameters state group row)

/-- The rows that columns make of rows. -/
def Column.project (columns : List Column) (rows : List Row) (state : σ) : List Row :=
  let keys := columns.filter fun column => !column.value.aggregates
  if keys.length = columns.length then
    rows.map fun row => Column.row db parameters columns state [row] row
  else if keys.isEmpty then [Column.row db parameters columns state rows (rows.headD [])]
  else
    (db.grouped (fun row => keys.map fun column => row.value db parameters state column.value)
      rows []).map fun group => Column.row db parameters columns state group (group.headD [])

/-- The rows without those that equal one before them. -/
def Database.distinct (rows : List Row) : List Row :=
  rows.foldl (fun kept row =>
    if kept.any fun other => db.same (.object other) (.object row) then kept else kept ++ [row]) []

/-- What steps make of rows, one row after another. -/
def eachRow (step : Row → σ → List Row × σ) : List Row → σ → List Row × σ
  | [], state => ([], state)
  | row :: rest, state =>
      let (first, next) := step row state
      let (others, after) := eachRow step rest next
      (first ++ others, after)

/-- What a body sees of a row that it starts from. -/
def Row.imported (row : Row) (imports : List String) : Row :=
  row.filter fun entry => imports.contains entry.1

/-- How far a run is: its rows, the state of the database, and an optional pattern that waits for the
conditions behind it. -/
structure Flow (σ : Type) where
  rows : List Row
  state : σ
  waiting : Option Pattern := none

namespace Flow

/-- Finds the pattern that waits, if one does. -/
def settled (conditions : List Expression) (flow : Flow σ) : Flow σ :=
  match flow.waiting with
  | none => flow
  | some pattern =>
      { rows := flow.rows.flatMap (db.optional parameters flow.state · pattern conditions)
        state := flow.state }

/-- Keeps the rows that conditions are true of; conditions behind an optional pattern are a part of
it. -/
def filtered (conditions : List Expression) (flow : Flow σ) : Flow σ :=
  match flow.waiting with
  | none => { flow with rows := flow.rows.filter (Row.satisfies db parameters flow.state conditions) }
  | some _ => flow.settled db parameters conditions

/-- Changes the rows without the database. -/
def mapped (change : List Row → List Row) (flow : Flow σ) : Flow σ :=
  { flow with rows := change flow.rows }

/-- Takes a step for each row. -/
def each (step : Row → σ → List Row × σ) (flow : Flow σ) : Flow σ :=
  let (rows, state) := eachRow step flow.rows flow.state
  { flow with rows, state }

end Flow

namespace Clause

mutual

/-- The flow behind a clause. -/
def run (clause : Clause) (before : Flow σ) : Flow σ :=
  let flow := before.settled db parameters []
  match clause with
  | .find pattern => flow.mapped fun rows => rows.flatMap (db.extensions flow.state · pattern)
  | .findOptional pattern => { flow with waiting := some pattern }
  | .filter conditions => before.filtered db parameters conditions
  | .create pattern =>
      flow.each fun row state =>
        let (made, after) := db.make row pattern state
        ([made], after)
  | .merge counter label name =>
      flow.each fun row state =>
        let (found, after) := db.counter label (row.value db parameters state name) state
        ([row.bind counter found], after)
  | .set assignments =>
      flow.each fun row state => ([row], row.assigned db parameters assignments state)
  | .setOnCreate target value =>
      flow.each fun row state =>
        let made := target.variables.any fun owner => db.isNew ((row.get? owner).getD .null) state
        ([row], if made then row.assigned db parameters [(target, value)] state else state)
  | .carry columns => flow.mapped (Column.project db parameters columns · flow.state)
  | .order key =>
      flow.mapped fun rows => rows.mergeSort fun one other =>
        db.before (one.value db parameters flow.state key) (other.value db parameters flow.state key)
  | .limit count =>
      match Row.value db parameters flow.state [] count with
      | .int number => flow.mapped (List.take number.toNat)
      | _ => flow
  | .unwind items name =>
      flow.mapped fun rows => rows.flatMap fun row =>
        (itemsIn (row.value db parameters flow.state items)).map (row.bind name)
  | .answer columns => flow.mapped (Column.project db parameters columns · flow.state)
  | .union => flow
  | .subquery imports body =>
      flow.each fun row state =>
        let answers := runAll [row.imported imports] body { rows := [row.imported imports], state }
        (answers.rows.map (· ++ row), answers.state)

/-- The flow behind clauses, one after another.  The branches of a union all start from the same rows.
-/
def runAll (start : List Row) : List Clause → Flow σ → Flow σ
  | [], flow => flow.settled db parameters []
  | .union :: rest, flow =>
      let branch := flow.settled db parameters []
      let others := runAll start rest { rows := start, state := branch.state }
      { rows := db.distinct (branch.rows ++ others.rows), state := others.state }
  | clause :: rest, flow => runAll start rest (clause.run flow)

end

/-- What a body of a subquery makes of a row. -/
def runFrom (body : List Clause) (row : Row) (state : σ) : Flow σ :=
  runAll db parameters [row] body { rows := [row], state }

/-- What a statement makes of the one row without variables that it starts from. -/
def result (clauses : List Clause) (state : σ) : Flow σ :=
  runFrom db parameters clauses [] state

end Clause

end

end GraphGateway.Cypher
