import GraphGateway.Proofs.Cypher.Supply
import GraphGateway.Cypher.Clause
import GraphGateway.Settings.Features

/-!
Sequenced clauses.  A relationship is created behind a subquery that draws the next number of its
type's counter, and the first assignment behind it stores that number.  Clauses are sequenced if
all relationships are created so and all other assignments are of a kind that is allowed; what the
numbers of relationships rely on follows from the way such clauses are put together.
-/
namespace GraphGateway.Cypher

open Naming (Holds)
open Settings (Features)

/-- A name that a statement has for relationships only. -/
def IsEdge (name : String) : Prop := name = "" ∨ ∃ number, name = numbered "edge" number

theorem not_isEdge_of_head {name : String} {first : Char} (head : name.toList.head? = some first)
    (other : first ≠ 'e') : ¬ IsEdge name := by
  rintro (rfl | ⟨number, rfl⟩)
  · cases head
  · rw [numbered_toList] at head
    exact other (Option.some.inj head).symm

theorem not_isEdge_of_base {base : String} (other : base ≠ "edge") (number : Nat) :
    ¬ IsEdge (Cypher.numbered base number) := by
  rintro (empty | ⟨another, same⟩)
  · exact numbered_ne_empty base number empty
  · exact other (base_eq_of_numbered_eq same)

namespace Clause

/-- A list of clauses that is another one, or the body of a subquery in it at whatever depth. -/
inductive Within : List Clause → List Clause → Prop where
  | self (clauses : List Clause) : Within clauses clauses
  | subquery {imports : List String} {body inner clauses : List Clause}
      (member : .subquery imports body ∈ clauses) (within : Within inner body) :
      Within inner clauses

theorem Within.trans {inner body clauses : List Clause} (first : Within inner body)
    (second : Within body clauses) : Within inner clauses := by
  induction second with
  | self _ => exact first
  | subquery member _ ih => exact .subquery member (ih first)

/-- What a clause assigns. -/
def assigned : Clause → List (Expression × Expression)
  | .set assignments => assignments
  | .setOnCreate target value => [(target, value)]
  | _ => []

/-- The relationship that a clause finds or creates. -/
def related? : Clause → Option RelationshipPattern
  | .find (.relationship pattern) => some pattern
  | .findOptional (.relationship pattern) => some pattern
  | .create (.relationship pattern) => some pattern
  | _ => none

/-- Clauses that find or create a relationship under a variable. -/
def Relate (clauses : List Clause) (name : String) : Prop :=
  ∃ body, Within body clauses ∧ ∃ clause ∈ body, ∃ pattern,
    clause.related? = some pattern ∧ pattern.name = name

/-- A subquery that draws the next number of the counter of a relationship type. -/
def Draws (features : Features) (parameters : Entries Value) (label drawn : String)
    (clause : Clause) : Prop :=
  ∃ counter name, Holds (.text label) name parameters ∧
    clause = .subquery []
      [.merge counter features.sequenceLabel name, .setOnCreate (.counted counter) (.number 0),
       .set [(.counted counter, .plus (.counted counter) (.number 1))],
       .answer [.as (.counted counter) drawn]]

section

variable (features : Features) (parameters : Entries Value)

/-- Every relationship that is created gets the next number of its type's counter at once. -/
def NumbersCreated (clauses : List Clause) : Prop :=
  ∀ body, Within body clauses → ∀ before pattern after,
    body = before ++ .create (.relationship pattern) :: after →
      ∃ earlier draw drawn assignments later,
        before = earlier ++ [draw] ∧ Draws features parameters pattern.label drawn draw ∧
        after = .set ((.property pattern.name features.sequenceProperty, .variable drawn) ::
          assignments) :: later

/-- No relationship gets a number by an assignment other than the first one behind its creation,
which stores the number that is drawn for it. -/
def NumbersOnlyCreated (clauses : List Clause) : Prop :=
  ∀ body, Within body clauses → ∀ before clause after, body = before ++ clause :: after →
    ∀ earlier owner value later,
      clause.assigned = earlier ++ (.property owner features.sequenceProperty, value) :: later →
      Relate clauses owner →
        earlier = [] ∧ ∃ prior draw pattern drawn,
          before = prior ++ [draw, .create (.relationship pattern)] ∧ pattern.name = owner ∧
          Draws features parameters pattern.label drawn draw ∧ value = .variable drawn

/-- A clause that creates no relationship and has no clauses in it. -/
def isPlain : Clause → Bool
  | .create (.relationship _) => false
  | .subquery _ _ => false
  | _ => true

/-- Clauses that number all relationships that they create; their other assignments are free. -/
inductive Sequenced (free : Expression × Expression → Prop) : List Clause → Prop where
  | nil : Sequenced free []
  | plain {clause : Clause} {rest : List Clause} (plain : clause.isPlain = true)
      (edges : ∀ pattern, clause.related? = some pattern → IsEdge pattern.name)
      (allowed : ∀ assignment ∈ clause.assigned, free assignment)
      (others : Sequenced free rest) : Sequenced free (clause :: rest)
  | subquery {imports : List String} {body rest : List Clause} (inner : Sequenced free body)
      (others : Sequenced free rest) : Sequenced free (.subquery imports body :: rest)
  | relationship {draw : Clause} {drawn : String} {pattern : RelationshipPattern}
      {assignments : List (Expression × Expression)} {rest : List Clause}
      (draws : Draws features parameters pattern.label drawn draw)
      (edge : IsEdge pattern.name) (allowed : ∀ assignment ∈ assignments, free assignment)
      (others : Sequenced free rest) :
      Sequenced free (draw :: .create (.relationship pattern) ::
        .set ((.property pattern.name features.sequenceProperty, .variable drawn) ::
          assignments) :: rest)

end

variable {features : Features} {parameters : Entries Value}
  {free : Expression × Expression → Prop} {clauses rest : List Clause}

namespace Sequenced

theorem append (first : Sequenced features parameters free clauses)
    (second : Sequenced features parameters free rest) :
    Sequenced features parameters free (clauses ++ rest) := by
  induction first with
  | nil => exact second
  | plain plain edges allowed _ ih => exact .plain plain edges allowed ih
  | subquery inner _ _ ih => exact .subquery inner ih
  | relationship draws edge allowed _ ih => exact .relationship draws edge allowed ih

/-- A clause that neither relates nor assigns anything may stand anywhere. -/
theorem quiet {clause : Clause} (plain : clause.isPlain = true) (unrelated : clause.related? = none)
    (unassigned : clause.assigned = []) (others : Sequenced features parameters free rest) :
    Sequenced features parameters free (clause :: rest) := by
  apply Sequenced.plain plain _ _ others
  · intro pattern related
    rw [unrelated] at related
    cases related
  · intro assignment member
    rw [unassigned] at member
    cases member

/-- A relationship is found under a name for relationships. -/
theorem find {source name : String} {direction : Schema.Direction} {label : String}
    {target : NodePattern} (edge : IsEdge name)
    (others : Sequenced features parameters free rest) :
    Sequenced features parameters free
      (.find (.relationship { source, direction, name, label, target }) :: rest) := by
  apply Sequenced.plain rfl _ _ others
  · intro pattern related
    cases related
    exact edge
  · intro assignment member
    cases member

theorem filtering (conditions : List Expression) :
    Sequenced features parameters free (Clause.filtering conditions) := by
  unfold Clause.filtering
  split
  · exact .nil
  · exact .quiet rfl rfl rfl .nil

theorem set {assignments : List (Expression × Expression)}
    (allowed : ∀ assignment ∈ assignments, free assignment)
    (others : Sequenced features parameters free rest) :
    Sequenced features parameters free (.set assignments :: rest) := by
  refine .plain rfl ?_ allowed others
  intro pattern related
  cases related

theorem setting {assignments : List (Expression × Expression)}
    (allowed : ∀ assignment ∈ assignments, free assignment) :
    Sequenced features parameters free (Clause.setting assignments) := by
  unfold Clause.setting
  split
  · exact .nil
  · exact .set allowed .nil

/-- Where counters are free, drawing a number is no more than a subquery. -/
theorem of_draws (counts : ∀ counter value, free (.counted counter, value)) {label drawn : String}
    {imports : List String} {body : List Clause}
    (draws : Draws features parameters label drawn (.subquery imports body)) :
    Sequenced features parameters free body := by
  obtain ⟨counter, name, -, same⟩ := draws
  cases same
  refine .quiet rfl rfl rfl (.plain rfl ?_ ?_ (.set ?_ (.quiet rfl rfl rfl .nil)))
  · intro pattern related
    cases related
  · intro assignment member
    cases List.mem_singleton.mp member
    exact counts counter _
  · intro assignment member
    cases List.mem_singleton.mp member
    exact counts counter _

section

variable (counts : ∀ counter value, free (.counted counter, value))

include counts

theorem body_of_mem (sequenced : Sequenced features parameters free clauses)
    {imports : List String} {body : List Clause} (member : .subquery imports body ∈ clauses) :
    Sequenced features parameters free body := by
  induction sequenced with
  | nil => cases member
  | plain plain _ _ _ ih =>
      rcases List.mem_cons.mp member with rfl | later
      · cases plain
      · exact ih later
  | subquery inner _ _ ih =>
      rcases List.mem_cons.mp member with here | later
      · cases here
        exact inner
      · exact ih later
  | relationship draws _ _ _ ih =>
      rcases List.mem_cons.mp member with rfl | later
      · exact of_draws counts draws
      · rcases List.mem_cons.mp later with impossible | later
        · cases impossible
        · rcases List.mem_cons.mp later with impossible | later
          · cases impossible
          · exact ih later

theorem within (sequenced : Sequenced features parameters free clauses) {body : List Clause}
    (inside : Within body clauses) : Sequenced features parameters free body := by
  induction inside with
  | self _ => exact sequenced
  | subquery member _ ih => exact ih (sequenced.body_of_mem counts member)

end

/-- In front of a relationship that is created stands its number. -/
theorem created (sequenced : Sequenced features parameters free clauses) {before after : List Clause}
    {pattern : RelationshipPattern}
    (whole : clauses = before ++ .create (.relationship pattern) :: after) :
    ∃ earlier draw drawn assignments later,
      before = earlier ++ [draw] ∧ Draws features parameters pattern.label drawn draw ∧
      after = .set ((.property pattern.name features.sequenceProperty, .variable drawn) ::
        assignments) :: later := by
  induction sequenced generalizing before with
  | nil => cases before <;> cases whole
  | plain plain _ _ _ ih =>
      cases before with
      | nil =>
          cases whole
          cases plain
      | cons clause before =>
          obtain ⟨earlier, draw, drawn, assignments, later, rfl, draws, same⟩ :=
            ih (List.cons.inj whole).2
          exact ⟨clause :: earlier, draw, drawn, assignments, later, rfl, draws, same⟩
  | subquery _ _ _ ih =>
      cases before with
      | nil => cases whole
      | cons clause before =>
          obtain ⟨earlier, draw, drawn, assignments, later, rfl, draws, same⟩ :=
            ih (List.cons.inj whole).2
          exact ⟨clause :: earlier, draw, drawn, assignments, later, rfl, draws, same⟩
  | relationship draws _ _ _ ih =>
      rcases before with - | ⟨first, - | ⟨second, - | ⟨third, before⟩⟩⟩
      · obtain ⟨_, _, -, same⟩ := draws
        rw [same] at whole
        cases whole
      · cases whole
        exact ⟨[], _, _, _, _, rfl, draws, rfl⟩
      · cases whole
      · simp only [List.cons_append, List.cons.injEq] at whole
        obtain ⟨earlier, draw, drawn, assignments, later, rfl, drawing, same⟩ := ih whole.2.2.2
        exact ⟨first :: second :: third :: earlier, draw, drawn, assignments, later, rfl, drawing,
          same⟩

theorem isEdge_of_mem (sequenced : Sequenced features parameters free clauses) {clause : Clause}
    (member : clause ∈ clauses) {pattern : RelationshipPattern}
    (related : clause.related? = some pattern) : IsEdge pattern.name := by
  induction sequenced with
  | nil => cases member
  | plain _ edges _ _ ih =>
      rcases List.mem_cons.mp member with rfl | later
      · exact edges pattern related
      · exact ih later
  | subquery _ _ _ ih =>
      rcases List.mem_cons.mp member with rfl | later
      · cases related
      · exact ih later
  | relationship draws edge _ _ ih =>
      rcases List.mem_cons.mp member with rfl | later
      · obtain ⟨_, _, -, rfl⟩ := draws
        cases related
      · rcases List.mem_cons.mp later with rfl | later
        · cases related
          exact edge
        · rcases List.mem_cons.mp later with rfl | later
          · cases related
          · exact ih later

/-- An assignment that is not free stores the number of the relationship created before it. -/
theorem assigned_of_not_free (sequenced : Sequenced features parameters free clauses)
    {before after : List Clause} {clause : Clause} (whole : clauses = before ++ clause :: after)
    {earlier later : List (Expression × Expression)} {target value : Expression}
    (assigned : clause.assigned = earlier ++ (target, value) :: later)
    (bound : ¬ free (target, value)) :
    earlier = [] ∧ ∃ prior draw pattern drawn,
      before = prior ++ [draw, .create (.relationship pattern)] ∧
      target = .property pattern.name features.sequenceProperty ∧
      Draws features parameters pattern.label drawn draw ∧ value = .variable drawn := by
  have inside : (target, value) ∈ clause.assigned := by
    rw [assigned]
    exact List.mem_append_right _ (List.mem_cons_self ..)
  induction sequenced generalizing before with
  | nil => cases before <;> cases whole
  | plain _ _ allowed _ ih =>
      cases before with
      | nil =>
          cases whole
          exact absurd (allowed _ inside) bound
      | cons first before =>
          obtain ⟨none_, prior, draw, pattern, drawn, rfl, rest⟩ := ih (List.cons.inj whole).2
          exact ⟨none_, first :: prior, draw, pattern, drawn, rfl, rest⟩
  | subquery _ _ _ ih =>
      cases before with
      | nil =>
          cases whole
          cases inside
      | cons first before =>
          obtain ⟨none_, prior, draw, pattern, drawn, rfl, rest⟩ := ih (List.cons.inj whole).2
          exact ⟨none_, first :: prior, draw, pattern, drawn, rfl, rest⟩
  | relationship draws _ allowed _ ih =>
      rcases before with - | ⟨first, - | ⟨second, - | ⟨third, before⟩⟩⟩
      · obtain ⟨_, _, -, same⟩ := draws
        rw [same] at whole
        cases whole
        cases inside
      · cases whole
        cases inside
      · cases whole
        cases earlier with
        | nil =>
            cases assigned
            exact ⟨rfl, [], _, _, _, rfl, rfl, draws, rfl⟩
        | cons entry earlier =>
            have member : (target, value) ∈ earlier ++ (target, value) :: later :=
              List.mem_append_right _ (List.mem_cons_self ..)
            exact absurd (allowed _ ((List.cons.inj assigned).2 ▸ member)) bound
      · simp only [List.cons_append, List.cons.injEq] at whole
        obtain ⟨none_, prior, draw, pattern, drawn, rfl, rest⟩ := ih whole.2.2.2
        exact ⟨none_, first :: second :: third :: prior, draw, pattern, drawn, rfl, rest⟩

/-- Sequenced clauses number whatever they create. -/
theorem numbersCreated (counts : ∀ counter value, free (.counted counter, value))
    (sequenced : Sequenced features parameters free clauses) :
    NumbersCreated features parameters clauses :=
  fun _ inside _ _ _ whole => (sequenced.within counts inside).created whole

/-- If no number of a relationship is free, sequenced clauses number nothing else. -/
theorem numbersOnlyCreated (counts : ∀ counter value, free (.counted counter, value))
    (bound : ∀ owner value, IsEdge owner → ¬ free (.property owner features.sequenceProperty, value))
    (sequenced : Sequenced features parameters free clauses) :
    NumbersOnlyCreated features parameters clauses := by
  intro body inside before clause after whole earlier owner value later assigned related
  obtain ⟨other, within, finding, member, pattern, found, rfl⟩ := related
  have edge := (sequenced.within counts within).isEdge_of_mem member found
  obtain ⟨none_, prior, draw, created, drawn, split, target, draws, drawing⟩ :=
    (sequenced.within counts inside).assigned_of_not_free whole assigned (bound _ value edge)
  exact ⟨none_, prior, draw, created, drawn, split, (Expression.property.inj target).1.symm, draws,
    drawing⟩

end Sequenced

/-- A subquery that finds a relationship and assigns its property. -/
def Rewrites (stored : String) (clause : Clause) : Prop :=
  ∃ imports pattern before assignments after value,
    clause = .subquery imports (.find (.relationship pattern) ::
      (before ++ .set assignments :: after)) ∧
    (∀ other ∈ before, ∃ conditions, other = .filter conditions) ∧
    (.property pattern.name stored, value) ∈ assignments

/-- Relationships that are found and get a number are numbered by something else than their
creation. -/
theorem not_numbersOnlyCreated {clause : Clause}
    (rewrites : Rewrites features.sequenceProperty clause) (member : clause ∈ clauses) :
    ¬ NumbersOnlyCreated features parameters clauses := by
  obtain ⟨imports, pattern, before, assignments, after, value, rfl, filters, inside⟩ := rewrites
  intro numbers
  obtain ⟨earlier, later, rfl⟩ := List.append_of_mem inside
  have within := Within.subquery member (.self _)
  have related : Relate clauses pattern.name :=
    ⟨_, within, _, List.mem_cons_self .., pattern, rfl, rfl⟩
  obtain ⟨-, prior, draw, created, drawn, same, -⟩ :=
    numbers _ within (.find (.relationship pattern) :: before) _ after rfl earlier pattern.name value
      later rfl related
  -- Only conditions stand between the relationship that is found and its assignments.
  have last : Clause.create (.relationship created) ∈ Clause.find (.relationship pattern) :: before :=
    same ▸ List.mem_append_right prior (List.mem_cons_of_mem _ (List.mem_singleton_self _))
  rcases List.mem_cons.mp last with impossible | among
  · cases impossible
  · obtain ⟨conditions, impossible⟩ := filters _ among
    cases impossible

end Clause

end GraphGateway.Cypher
