import GraphGateway.Proofs.Cypher.Sequenced
import GraphGateway.Proofs.Cypher.Written

/-!
Draws and creations in pairs.  A list of clauses creates no relationship and draws no number, or it
draws one number and creates one relationship right behind it.  Clauses are paired if this is true of
them and of all subqueries in them, and if all else that they assign belongs to a node or a
relationship that they have just created or found.
-/
namespace GraphGateway.Cypher

open Naming (Holds)
open Settings (Features)

def Expression.isCounted : Expression → Bool
  | .counted _ => true
  | _ => false

/-- A pattern that stands for one thing under its name: a node of a kind that fits, or a relationship
whose name is not that of the node at its other end. -/
def Pattern.Names (fits : String → Prop) : Pattern → Prop
  | .node pattern => pattern.name ≠ "" ∧ ∃ label, pattern.label = some label ∧ fits label
  | .relationship pattern => pattern.name ≠ "" ∧ pattern.name ≠ pattern.target.name

/-- Assignments to properties of one owner. -/
def AreOf (owner : String) (assignments : List (Expression × Expression)) : Prop :=
  ∀ assignment ∈ assignments, ∃ key, assignment.1 = .property owner key

namespace Clause

/-- Whether a clause creates a relationship. -/
def relates : Clause → Bool
  | .create (.relationship _) => true
  | _ => false

/-- Whether a clause makes or changes a counter. -/
def counts : Clause → Bool
  | .merge _ _ _ => true
  | .setOnCreate _ _ => true
  | .set assignments => assignments.any (·.1.isCounted)
  | _ => false

/-- Whether a clause is a subquery that makes or changes a counter. -/
def draws : Clause → Bool
  | .subquery _ body => body.any counts
  | _ => false

/-- Clauses that create no relationship, draw no number and change no counter. -/
def AreIdle (clauses : List Clause) : Prop :=
  ∀ clause ∈ clauses, clause.relates = false ∧ clause.draws = false ∧ clause.counts = false

section

variable (features : Features) (parameters : Entries Value)

/-- The clauses that draw the next number of a counter. -/
def drawing (counter drawn : String) (name : Expression) : List Clause :=
  [.merge counter features.sequenceLabel name, .setOnCreate (.counted counter) (.number 0),
   .set [(.counted counter, .plus (.counted counter) (.number 1))],
   .answer [.as (.counted counter) drawn]]

/-- Clauses that create one relationship of a type and draw one number, from the counter of that
type, right in front of it.  The first assignment of the relationship stores the number. -/
def NumbersOne (label : String) (clauses : List Clause) : Prop :=
  ∃ before draw pattern drawn assignments after,
    clauses = before ++ draw :: .create (.relationship pattern) ::
      .set ((.property pattern.name features.sequenceProperty, .variable drawn) :: assignments) ::
        after ∧
    pattern.label = label ∧ Draws features parameters label drawn draw ∧
    AreIdle (before ++ .set assignments :: after)

/-- Draws and relationships that are created are in pairs: each list of clauses has none of both or
one of both, but for the clauses that make up a draw. -/
def DrawsInPairs (clauses : List Clause) : Prop :=
  ∀ body, Within body clauses →
    AreIdle body ∨ (∃ label, NumbersOne features parameters label body) ∨
      ∃ label drawn, Draws features parameters label drawn (.subquery [] body)

/-- Clauses with at most one relationship that is created among them, of the type that is told. -/
inductive Paired (fits : String → Prop) : Option String → List Clause → Prop where
  | nil : Paired fits none []
  | reads {made : Option String} {clause : Clause} {rest : List Clause} (reading : clause.reads = true)
      (others : Paired fits made rest) : Paired fits made (clause :: rest)
  | subquery {made inner : Option String} {imports : List String} {body rest : List Clause}
      (nested : Paired fits inner body) (others : Paired fits made rest) :
      Paired fits made (.subquery imports body :: rest)
  | node {made : Option String} {pattern : NodePattern}
      {assignments : List (Expression × Expression)} {rest : List Clause}
      (names : Pattern.Names fits (.node pattern)) (owned : AreOf pattern.name assignments)
      (others : Paired fits made rest) :
      Paired fits made (.create (.node pattern) :: .set assignments :: rest)
  | found {made : Option String} {pattern : Pattern} {conditions : List Expression}
      {assignments : List (Expression × Expression)} {rest : List Clause}
      (names : pattern.Names fits) (owned : AreOf pattern.name assignments)
      (others : Paired fits made rest) :
      Paired fits made
        (.find pattern :: (Clause.filtering conditions ++ Clause.setting assignments ++ rest))
  | relationship {counter drawn : String} {name : Expression} {pattern : RelationshipPattern}
      {assignments : List (Expression × Expression)} {rest : List Clause}
      (held : Holds (.text pattern.label) name parameters) (counting : counter ≠ "")
      (drawing : drawn ≠ "") (edging : pattern.name ≠ "") (apart : drawn ≠ pattern.name)
      (owned : AreOf pattern.name assignments) (others : Paired fits none rest) :
      Paired fits (some pattern.label)
        (.subquery [] (Clause.drawing features counter drawn name) ::
          .create (.relationship pattern) ::
          .set ((.property pattern.name features.sequenceProperty, .variable drawn) ::
            assignments) :: rest)

end

section

variable {clauses rest : List Clause}

theorem areIdle_append_iff : AreIdle (clauses ++ rest) ↔ AreIdle clauses ∧ AreIdle rest :=
  List.forall_mem_append

theorem areIdle_cons {clause : Clause} (first : clause.relates = false ∧ clause.draws = false ∧
    clause.counts = false) (others : AreIdle rest) : AreIdle (clause :: rest) :=
  List.forall_mem_cons.mpr ⟨first, others⟩

theorem areIdle_singleton {clause : Clause} (first : clause.relates = false ∧ clause.draws = false ∧
    clause.counts = false) : AreIdle [clause] :=
  areIdle_cons first fun _ member => nomatch member

theorem any_counts_of_areIdle (idle : AreIdle clauses) : clauses.any counts = false :=
  List.any_eq_false.mpr fun clause member => by rw [(idle clause member).2.2]; decide

/-- What reads has nothing to do with counters. -/
theorem counts_of_reads {clause : Clause} (reading : clause.reads = true) :
    clause.counts = false := by
  cases clause <;> first | rfl | cases reading

theorem any_counts_of_readsAll (reading : readsAll clauses = true) :
    clauses.any counts = false := by
  induction clauses with
  | nil => rfl
  | cons clause rest ih =>
      rw [readsAll, Bool.and_eq_true] at reading
      rw [List.any_cons, counts_of_reads reading.1, ih reading.2]
      rfl

theorem idle_of_reads {clause : Clause} (reading : clause.reads = true) :
    clause.relates = false ∧ clause.draws = false ∧ clause.counts = false := by
  refine ⟨?_, ?_, counts_of_reads reading⟩
  · cases clause <;> first | rfl | cases reading
  · cases clause with
    | subquery imports body => exact any_counts_of_readsAll reading
    | _ => rfl

theorem counts_of_areOf {owner : String} {assignments : List (Expression × Expression)}
    (owned : AreOf owner assignments) : (Clause.set assignments).counts = false := by
  refine List.any_eq_false.mpr fun assignment member => ?_
  obtain ⟨key, same⟩ := owned assignment member
  rw [same]
  exact Bool.false_ne_true

theorem idle_of_areOf {owner : String} {assignments : List (Expression × Expression)}
    (owned : AreOf owner assignments) :
    (Clause.set assignments).relates = false ∧ (Clause.set assignments).draws = false ∧
      (Clause.set assignments).counts = false :=
  ⟨rfl, rfl, counts_of_areOf owned⟩

theorem areIdle_filtering (conditions : List Expression) : AreIdle (filtering conditions) := by
  unfold filtering
  split
  · exact fun _ member => nomatch member
  · exact areIdle_singleton ⟨rfl, rfl, rfl⟩

theorem areIdle_setting {owner : String} {assignments : List (Expression × Expression)}
    (owned : AreOf owner assignments) : AreIdle (setting assignments) := by
  unfold setting
  split
  · exact fun _ member => nomatch member
  · exact areIdle_singleton (idle_of_areOf owned)

end

variable {features : Features} {parameters : Entries Value} {fits : String → Prop}
  {made : Option String} {label : String} {clauses rest : List Clause}

theorem NumbersOne.append (front : AreIdle clauses)
    (numbers : NumbersOne features parameters label rest) :
    NumbersOne features parameters label (clauses ++ rest) := by
  obtain ⟨before, draw, pattern, drawn, assignments, after, rfl, same, drawing, idle⟩ := numbers
  refine ⟨clauses ++ before, draw, pattern, drawn, assignments, after, ?_, same, drawing, ?_⟩
  · rw [List.append_assoc]
  · rw [List.append_assoc]
    exact areIdle_append_iff.mpr ⟨front, idle⟩

/-- The clauses change no counter themselves: this is left to the draw. -/
theorem NumbersOne.any_counts (numbers : NumbersOne features parameters label clauses) :
    clauses.any counts = false := by
  obtain ⟨before, draw, pattern, drawn, assignments, after, rfl, -, ⟨_, _, -, rfl⟩, idle⟩ := numbers
  obtain ⟨front, behind⟩ := areIdle_append_iff.mp idle
  have others := any_counts_of_areIdle behind
  rw [List.any_cons, Bool.or_eq_false_iff] at others
  have set : (Clause.set assignments).counts = false := others.1
  simp only [List.any_append, List.any_cons, any_counts_of_areIdle front, others.2, counts,
    Expression.isCounted, Bool.false_or, Bool.or_false] at set ⊢
  exact set

/-- Where a relationship is created, its number is drawn. -/
theorem DrawsInPairs.numbersOne (pairs : DrawsInPairs features parameters clauses)
    {body : List Clause} (inside : Within body clauses) {pattern : RelationshipPattern}
    (member : .create (.relationship pattern) ∈ body) :
    NumbersOne features parameters pattern.label body := by
  have busy : ∀ others, AreIdle others → .create (.relationship pattern) ∉ others :=
    fun others idle among => nomatch (idle _ among).1
  rcases pairs body inside with idle | ⟨label, numbers⟩ | ⟨label, drawn, counter, name, -, same⟩
  · exact absurd member (busy _ idle)
  · obtain ⟨before, draw, made, drawn, assignments, after, whole, rfl, drawing, idle⟩ := numbers
    obtain ⟨front, behind⟩ := areIdle_append_iff.mp idle
    have here : pattern = made := by
      obtain ⟨_, _, -, rfl⟩ := drawing
      rw [whole] at member
      simpa [busy _ front, busy after fun clause among => behind clause (.tail _ among)] using member
    rw [here]
    exact ⟨before, draw, made, drawn, assignments, after, whole, rfl, drawing, idle⟩
  · cases same
    simp at member

/-- What is told of paired clauses. -/
def Tells (features : Features) (parameters : Entries Value) (clauses : List Clause) :
    Option String → Prop
  | none => AreIdle clauses
  | some label => NumbersOne features parameters label clauses

theorem Tells.append (front : AreIdle clauses) (told : Tells features parameters rest made) :
    Tells features parameters (clauses ++ rest) made :=
  match made, told with
  | none, idle => areIdle_append_iff.mpr ⟨front, idle⟩
  | some _, numbers => NumbersOne.append front numbers

theorem Tells.any_counts (told : Tells features parameters clauses made) :
    clauses.any counts = false :=
  match made, told with
  | none, idle => any_counts_of_areIdle idle
  | some _, numbers => NumbersOne.any_counts numbers

namespace Paired

/-- Paired clauses create the relationship that they tell of, or none, with a number for it. -/
theorem tells (paired : Paired features parameters fits made clauses) :
    Tells features parameters clauses made := by
  induction paired with
  | nil => exact fun _ member => nomatch member
  | reads reading _ ih =>
      exact Tells.append (areIdle_singleton (idle_of_reads reading)) ih
  | @subquery _ _ imports body _ _ _ nested ih =>
      have apart : (Clause.subquery imports body).draws = false := nested.any_counts
      exact Tells.append (areIdle_singleton ⟨rfl, apart, rfl⟩) ih
  | node _ owned _ ih =>
      exact Tells.append
        (areIdle_cons ⟨rfl, rfl, rfl⟩ (areIdle_singleton (idle_of_areOf owned))) ih
  | found _ owned _ ih =>
      exact Tells.append (areIdle_cons ⟨rfl, rfl, rfl⟩
        (areIdle_append_iff.mpr ⟨areIdle_filtering _, areIdle_setting owned⟩)) ih
  | relationship held _ _ _ _ owned _ ih =>
      exact ⟨[], _, _, _, _, _, rfl, rfl, ⟨_, _, held, rfl⟩, areIdle_cons (idle_of_areOf owned) ih⟩

theorem of_readsAll (reading : readsAll clauses = true) :
    Paired features parameters fits none clauses := by
  induction clauses with
  | nil => exact .nil
  | cons clause rest ih =>
      rw [readsAll, Bool.and_eq_true] at reading
      exact .reads reading.1 (ih reading.2)

/-- Clauses without a relationship may stand in front of others. -/
theorem append (first : Paired features parameters fits none clauses)
    (second : Paired features parameters fits made rest) :
    Paired features parameters fits made (clauses ++ rest) := by
  generalize none_ : (none : Option String) = front at first
  induction first with
  | nil => exact second
  | reads reading _ ih => exact .reads reading (ih none_)
  | subquery nested _ _ ih => exact .subquery nested (ih none_)
  | node names owned _ ih => exact .node names owned (ih none_)
  | found names owned _ ih =>
      rw [List.cons_append, List.append_assoc]
      exact .found names owned (ih none_)
  | relationship => cases none_

/-- The clauses of a subquery are paired again, or they make up a draw. -/
theorem body_of_mem (paired : Paired features parameters fits made clauses) {imports : List String}
    {body : List Clause} (member : .subquery imports body ∈ clauses) :
    (∃ inner, Paired features parameters fits inner body) ∨
      ∃ label drawn, Draws features parameters label drawn (.subquery [] body) := by
  induction paired with
  | nil => cases member
  | reads reading _ ih =>
      rcases List.mem_cons.mp member with rfl | later
      · exact .inl ⟨none, of_readsAll reading⟩
      · exact ih later
  | subquery nested _ _ ih =>
      rcases List.mem_cons.mp member with here | later
      · cases here
        exact .inl ⟨_, nested⟩
      · exact ih later
  | node _ _ _ ih =>
      rcases List.mem_cons.mp member with impossible | later
      · cases impossible
      · rcases List.mem_cons.mp later with impossible | later
        · cases impossible
        · exact ih later
  | found _ _ _ ih =>
      rcases List.mem_cons.mp member with impossible | later
      · cases impossible
      · rcases List.mem_append.mp later with between | later
        · exfalso
          simp only [filtering, setting, List.mem_append] at between
          rcases between with among | among <;> split at among <;> simp at among
        · exact ih later
  | relationship held _ _ _ _ _ _ ih =>
      rcases List.mem_cons.mp member with here | later
      · cases here
        exact .inr ⟨_, _, _, _, held, rfl⟩
      · rcases List.mem_cons.mp later with impossible | later
        · cases impossible
        · rcases List.mem_cons.mp later with impossible | later
          · cases impossible
          · exact ih later

theorem within (paired : Paired features parameters fits made clauses) {body : List Clause}
    (inside : Within body clauses) :
    (∃ inner, Paired features parameters fits inner body) ∨
      ∃ label drawn, Draws features parameters label drawn (.subquery [] body) := by
  have start : (∃ made, Paired features parameters fits made clauses) ∨
      ∃ label drawn, Draws features parameters label drawn (.subquery [] clauses) :=
    .inl ⟨made, paired⟩
  clear paired
  induction inside with
  | self _ => exact start
  | subquery member _ ih =>
      rcases start with ⟨made, paired⟩ | ⟨label, drawn, counter, name, -, same⟩
      · exact ih (paired.body_of_mem member)
      -- There is no subquery among the clauses of a draw.
      · cases same
        simp at member

theorem drawsInPairs (paired : Paired features parameters fits made clauses) :
    DrawsInPairs features parameters clauses := by
  intro body inside
  rcases paired.within inside with ⟨inner, nested⟩ | drawn
  · cases inner with
    | none => exact .inl nested.tells
    | some label => exact .inr (.inl ⟨label, nested.tells⟩)
  · exact .inr (.inr drawn)

end Paired

end Clause

end GraphGateway.Cypher
