import Mathlib.Data.List.Sort
import GraphGateway.Cypher.Clause
import GraphGateway.Proofs.Entries
import GraphGateway.Proofs.Outcome

/-!
What subqueries answer that read the relationships of one node.  A relationship is known by the
number that it drew when it was created.  A subquery finds relationships, keeps those that its
conditions hold of, orders them by their numbers, takes no more than its limit, and gathers what is
left in one column; subqueries in it answer one row for each of its rows.

Gathered maps come in any order.  A key that comes twice in a map has the last of its values.  Of a
gathered map only the key that stands first in its clause is relied on, whatever the other ones are.
-/
namespace GraphGateway.Cypher

open Schema (Direction)

/-- The numbers of the relationships of a node, by their direction, their label and the label of
the node at the other end. -/
abbrev Relationships := Direction → String → Option String → List Nat

/-- The relationships of the node under a variable, the property that their numbers are stored in,
and the values of the parameters. -/
structure Scene where
  source : String
  relationships : Relationships
  numbered : String
  parameters : Entries Value

def Comparison.holds : Comparison → Int → Int → Bool
  | equal, first, second => first == second
  | above, first, second => decide (second < first)
  | atMost, first, second => decide (first ≤ second)

/-- A variable that is kept under its name. -/
def Column.keeps (name : String) : Column → Bool
  | ⟨.variable kept, none⟩ => kept == name
  | _ => false

/-- Whether there are more rows than a number, which is asked of a column that counts them. -/
def Column.counted? (edge : String) (rows : List Nat) : Column → Option (String × Value)
  | ⟨.compare .above (.count (.variable counted)) (.number least), some name⟩ =>
      if counted = edge then some (name, .bool (decide (least < rows.length))) else none
  | _ => none

/-- Whether a column gathers all rows in one. -/
def Column.gathers (column : Column) : Bool :=
  match column.value with
  | .collect _ => true
  | .head (.collect _) => true
  | .compare _ (.count _) (.number _) => true
  | _ => false

/-- Whether a clause is a subquery that answers one row, whatever it finds. -/
def Clause.gathers : Clause → Bool
  | .subquery _ body =>
      match body.getLast? with
      | some (.answer [column]) => column.gathers
      | _ => false
  | _ => false

namespace Scene

variable (scene : Scene)

/-- A number that depends on that of the relationship under a variable. -/
def number? (edge : String) : Expression → Option (Nat → Int)
  | .property owner key =>
      if owner = edge ∧ key = scene.numbered then some fun number => number else none
  | .parameter name =>
      match scene.parameters.get? name with
      | some (.int value) => some fun _ => value
      | _ => none
  | _ => none

/-- A condition on the number of the relationship under a variable. -/
def test? (edge : String) : Expression → Option (Nat → Bool)
  | .isPresent item => (scene.number? edge item).map fun _ _ => true
  | .compare relation first second => do
      let one ← scene.number? edge first
      let other ← scene.number? edge second
      pure fun number => relation.holds (one number) (other number)
  | _ => none

/-- The rows that some conditions hold of. -/
def kept? (edge : String) (rows : List Nat) (conditions : List Expression) :
    Option (List Nat) := do
  let tests ← conditions.mapM (scene.test? edge)
  pure (rows.filter fun number => tests.all (· number))

/-- The rows that are left behind some clauses, and the column that they are answered in. -/
def flow? (edge : String) : List Nat → List Clause → Option (List Nat × Column)
  | rows, .answer columns :: rest =>
      match columns, rest with
      | [column], [] => some (rows, column)
      | _, _ => none
  | rows, .filter conditions :: rest => do
      let kept ← scene.kept? edge rows conditions
      flow? edge kept rest
  | rows, .carry columns :: rest =>
      if columns.any (Column.keeps edge) then flow? edge rows rest else none
  | rows, .order (.property owner key) :: rest =>
      if owner = edge ∧ key = scene.numbered then flow? edge (rows.mergeSort (· ≤ ·)) rest else none
  | rows, .limit (.parameter name) :: rest =>
      match scene.parameters.get? name with
      | some (.int most) => flow? edge (rows.take most.toNat) rest
      | _ => none
  | rows, .subquery imports body :: rest =>
      if (Clause.subquery imports body).gathers then flow? edge rows rest else none
  | _, _ => none

/-- What stands in a map of a relationship: a number that depends on its own one, or a map without
entries. -/
def item? (edge : String) : Expression → Option (Nat → Value)
  | .map [] => some fun _ => .object []
  | item => (scene.number? edge item).map fun value number => .int (value number)

/-- The maps that rows are collected in, each with what stands under its first key. -/
def collected? (edge : String) (rows : List Nat) : Column → Option (String × Value)
  | ⟨.collect (.map entries), some name⟩ => do
      let (key, item) ← (Entries.ofPairs entries).head?
      let value ← scene.item? edge item
      pure (name, .list (rows.map fun number => .object [(key, value number)]))
  | _ => none

/-- The relationships that a pattern finds. -/
def found? (imports : List String) (pattern : RelationshipPattern) : Option (List Nat) :=
  if imports = [scene.source] ∧ pattern.source = scene.source then
    some (scene.relationships pattern.direction pattern.label pattern.target.label)
  else none

/-- What a subquery answers, under the name of its column. -/
def answer? : Clause → Option (String × Value)
  | .subquery imports (.find (.relationship pattern) :: body) => do
      let found ← scene.found? imports pattern
      let (rows, column) ← scene.flow? pattern.name found body
      scene.collected? pattern.name rows column
  | .subquery imports [.findOptional (.relationship pattern), .filter conditions,
      .answer [column]] => do
      let found ← scene.found? imports pattern
      let rows ← scene.kept? pattern.name found conditions
      column.counted? pattern.name rows
  | _ => none

end Scene

mutual

/-- The value of an expression in answers. -/
def Expression.valueIn (answers : Entries Value) : Expression → Option Value
  | .variable name => answers.get? name
  | .no => some (.bool false)
  | .map entries => (Expression.entriesIn answers entries).map fun pairs =>
      .object (Entries.ofPairs pairs)
  | _ => none

def Expression.entriesIn (answers : Entries Value) :
    List (String × Expression) → Option (List (String × Value))
  | [] => some []
  | (key, item) :: rest => do
      let value ← item.valueIn answers
      let others ← Expression.entriesIn answers rest
      pure ((key, value) :: others)

end

/-- A map that has the entries of another one, and may have more.  What is known of a collected map has
its key once, with the last value that stands under it. -/
def HasEntriesOf (given known : Value) : Prop :=
  ∃ entries, given = .object entries ∧
    ∀ key value, known.get? key = some value → Entries.get? entries key = some value

/-- An answer that is as good as one that is known: the maps that it collects may come in another
order and hold more. -/
inductive Fits : Value → Value → Prop where
  | same (known : Value) : Fits known known
  | collected {items shuffled known : List Value} (order : shuffled.Perm known)
      (each : List.Forall₂ HasEntriesOf items shuffled) : Fits (.list items) (.list known)

/-- A map that may be answered when some clauses have run: where it is known what all of them
answer, its values come from answers that are as good. -/
def Scene.Admits (scene : Scene) (clauses : List Clause) (map : List (String × Expression))
    (answer : Value) : Prop :=
  ∀ known, clauses.mapM scene.answer? = some known →
    ∃ given, List.Forall₂ (fun one other => one.1 = other.1 ∧ Fits one.2 other.2) given known ∧
      ∀ value, (Expression.map map).valueIn given = some value → answer = value

/-- The map over what the clauses are known to answer. -/
def Scene.canonical (scene : Scene) (clauses : List Clause) (map : List (String × Expression)) :
    Value :=
  ((clauses.mapM scene.answer?).bind fun known => (Expression.map map).valueIn known).getD .null

theorem Scene.admits_canonical (scene : Scene) (clauses : List Clause)
    (map : List (String × Expression)) :
    scene.Admits clauses map (scene.canonical clauses map) := by
  intro known answered
  refine ⟨known, ?_, ?_⟩
  · exact List.forall₂_same.mpr fun answer _ => ⟨rfl, .same answer.2⟩
  · intro value valued
    unfold canonical
    rw [answered, Option.bind_some, valued]
    rfl

namespace Scene

variable (scene : Scene) {edge : String} {rows : List Nat} {rest : List Clause}

/-- Subqueries that gather what they find leave the rows as they are. -/
theorem flow?_gathering {clauses : List Clause}
    (gathering : ∀ clause ∈ clauses, clause.gathers = true) :
    scene.flow? edge rows (clauses ++ rest) = scene.flow? edge rows rest := by
  induction clauses with
  | nil => rfl
  | cons clause others ih =>
      have first := gathering clause (List.mem_cons_self ..)
      cases clause with
      | subquery imports body =>
          rw [List.cons_append, flow?, if_pos first]
          exact ih fun other member => gathering other (List.mem_cons_of_mem _ member)
      | _ => cases first

theorem found?_own {pattern : RelationshipPattern} (own : pattern.source = scene.source) :
    scene.found? [scene.source] pattern =
      some (scene.relationships pattern.direction pattern.label pattern.target.label) := by
  rw [found?, if_pos ⟨rfl, own⟩]

theorem number?_numbered (edge : String) :
    scene.number? edge (.property edge scene.numbered) = some Nat.cast := by
  rw [number?, if_pos ⟨rfl, rfl⟩]

theorem item?_numbered (edge : String) :
    scene.item? edge (.property edge scene.numbered) = some fun number : Nat => .int number := by
  rw [item?, number?_numbered]
  · rfl
  · nofun

theorem test?_isPresent (edge : String) :
    scene.test? edge (.isPresent (.property edge scene.numbered)) = some fun _ => true := by
  rw [test?, number?_numbered]
  rfl

/-- A comparison with a parameter compares with the value that it has. -/
theorem test?_compare (edge : String) (relation : Comparison) {name : String} {value : Int}
    (held : scene.parameters.get? name = some (.int value)) :
    scene.test? edge (.compare relation (.property edge scene.numbered) (.parameter name)) =
      some fun number : Nat => relation.holds number value := by
  have parameter : scene.number? edge (.parameter name) = some fun _ => value := by
    simp only [number?, held]
  rw [test?, number?_numbered, parameter]
  rfl

/-- A count of the rows up to some number tells whether there are any. -/
theorem answer?_counted {pattern : RelationshipPattern} (own : pattern.source = scene.source)
    {name : String} {value : Int} (held : scene.parameters.get? name = some (.int value))
    (result : String) :
    scene.answer? (.subquery [scene.source] [.findOptional (.relationship pattern),
        .filter [.compare .atMost (.property pattern.name scene.numbered) (.parameter name)],
        .answer [.as (.compare .above (.count (.variable pattern.name)) (.number 0)) result]]) =
      some (result, .bool ((scene.relationships pattern.direction pattern.label
        pattern.target.label).any fun number => decide ((number : Int) ≤ value))) := by
  have kept : ∀ numbers, scene.kept? pattern.name numbers
      [.compare .atMost (.property pattern.name scene.numbered) (.parameter name)] =
        some (numbers.filter fun number : Nat => decide ((number : Int) ≤ value)) := by
    intro numbers
    rw [kept?, List.mapM_cons, test?_compare scene pattern.name .atMost held]
    simp [Comparison.holds]
  have some_ : ∀ numbers : List Nat,
      decide (0 < (numbers.filter fun number : Nat => decide ((number : Int) ≤ value)).length) =
        numbers.any fun number : Nat => decide ((number : Int) ≤ value) := by
    intro numbers
    rw [Bool.eq_iff_iff, decide_eq_true_eq, List.length_pos_iff_exists_mem, List.any_eq_true]
    simp only [List.mem_filter]
  rw [answer?, found?_own scene own, Option.bind_eq_bind, Option.bind_some, kept,
    Option.bind_some, Column.as, Column.counted?, if_pos rfl, some_]

/-- Where no other entry has its key, the first entry of a map is what is collected of it. -/
theorem collected?_alone {key : String} {entries : List (String × Expression)}
    (alone : key ∉ entries.map Prod.fst) (rows : List Nat) (result : String) :
    scene.collected? edge rows
        (.as (.collect (.map ((key, .property edge scene.numbered) :: entries))) result) =
      some (result, .list (rows.map fun number : Nat => .object [(key, .int number)])) := by
  rw [Column.as, collected?, Entries.head?_ofPairs alone, Option.bind_eq_bind, Option.bind_some]
  dsimp only
  rw [item?_numbered]
  rfl

end Scene

end GraphGateway.Cypher
