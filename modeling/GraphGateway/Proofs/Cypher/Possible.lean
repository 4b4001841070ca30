import GraphGateway.Proofs.Cypher.Scope

/-!
What a statement may answer.  Every variable has values that it may hold, whatever the others hold;
from these come the values that an expression may have, the variables behind a clause, and the rows
that a statement answers.  What an expression does with parameters, counters and nodes is left open:
such an expression may have any value, as may a variable that a pattern binds.
-/
namespace GraphGateway.Cypher

/-- What expressions may read in the stored properties of a variable.  No property holds a map. -/
structure Stored where
  holds : String → String → Value → Prop
  flat : ∀ owner key entries, ¬ holds owner key (.object entries)

/-- What variables may hold. -/
abbrev Possible := String → Value → Prop

namespace Possible

/-- Nothing is known of any variable. -/
def unknown : Possible := fun _ _ => True

/-- Nothing is known any longer of some variables. -/
def forget (possible : Possible) (names : List String) : Possible :=
  fun name value => name ∉ names → possible name value

/-- Nothing is known but of some variables. -/
def only (possible : Possible) (names : List String) : Possible :=
  fun name value => name ∈ names → possible name value

/-- Some variables hold what is new. -/
def rebind (possible : Possible) (names : List String) (new : Possible) : Possible :=
  fun name value => if name ∈ names then new name value else possible name value

theorem rebind_of_mem {possible new : Possible} {names : List String} {name : String}
    (member : name ∈ names) : possible.rebind names new name = new name := by
  funext value
  exact if_pos member

theorem rebind_of_not_mem {possible new : Possible} {names : List String} {name : String}
    (other : name ∉ names) : possible.rebind names new name = possible name := by
  funext value
  exact if_neg other

end Possible

section

variable (stored : Stored)

mutual

/-- Whether an expression may have a value. -/
def Expression.MayBe (possible : Possible) : Expression → Value → Prop
  | .variable name, value => possible name value
  | .property owner key, value => stored.holds owner key value
  | .text content, value => value = .text content
  | .map entries, value => ∃ given : Entries Value, value = .object given ∧
      (∀ entry ∈ entries, entry.1 ∈ given.keys) ∧
      ∀ entry ∈ given, Expression.OneMayBe possible entries entry.1 entry.2
  | .collect item, value => ∃ items, value = .list items ∧ ∀ one ∈ items, item.MayBe possible one
  | .head items, value => value = .null ∨ ∃ all, items.MayBe possible (.list all) ∧ value ∈ all
  | .positions _, value => ∃ items, value = .list items ∧
      ∀ one ∈ items, ∃ number : Nat, one = .int number
  | _, _ => True

/-- Whether one of the entries of a map may have a value.  Which entry counts among several under one
key is left open. -/
def Expression.OneMayBe (possible : Possible) :
    List (String × Expression) → String → Value → Prop
  | [], _, _ => False
  | (key, item) :: rest, wanted, value =>
      key = wanted ∧ item.MayBe possible value ∨ Expression.OneMayBe possible rest wanted value

end

/-- Whether some columns may have a value under a name. -/
def Column.MayBe (possible : Possible) (columns : List Column) : Possible :=
  fun name value => ∃ column ∈ columns, column.key? = some name ∧
    column.value.MayBe stored possible value

/-- The columns of each answer of some clauses, with what variables may hold where they are answered.
-/
abbrev Answers := List (List Column × Possible)

/-- What the columns of one of some answers may have under a name. -/
def Answers.MayBe (answers : Answers) : Possible :=
  fun name value => ∃ answer ∈ answers, Column.MayBe stored answer.2 answer.1 name value

/-- The columns that a clause answers. -/
def Clause.returned : Clause → List (List Column)
  | .answer columns => [columns]
  | _ => []

mutual

/-- What variables may hold behind a clause. -/
def Clause.after (possible : Possible) : Clause → Possible
  | .find pattern => possible.forget pattern.matched
  | .findOptional pattern => possible.forget pattern.matched
  | .create pattern => possible.forget pattern.made
  | .merge counter _ _ => possible.forget [counter]
  | .carry columns => (Column.MayBe stored possible columns).only (Column.keys columns)
  | .unwind items name =>
      possible.rebind [name] fun _ value => ∃ all, items.MayBe stored possible (.list all) ∧ value ∈ all
  | .answer _ => .unknown
  | .union => .unknown
  | .subquery imports body =>
      possible.rebind (Clause.answered body)
        (Answers.MayBe stored (Clause.answers (possible.only imports) body))
  | _ => possible

/-- What some clauses answer. -/
def Clause.answers (possible : Possible) : List Clause → Answers
  | [] => []
  | clause :: rest =>
      clause.returned.map (·, possible) ++ Clause.answers (clause.after possible) rest

end

/-- What variables may hold behind some clauses. -/
def Clause.afterAll (possible : Possible) (clauses : List Clause) : Possible :=
  clauses.foldl (Clause.after stored) possible

/-- A row with a value for each column of one of the answers of a statement. -/
def Clause.MayRow (clauses : List Clause) (row : Value) : Prop :=
  ∃ answer ∈ Clause.answers stored .unknown clauses, ∃ entries : Entries Value, row = .object entries ∧
    entries.keys = Column.keys answer.1 ∧
    ∀ entry ∈ entries, Column.MayBe stored answer.2 answer.1 entry.1 entry.2

/-- A list of rows that a statement may answer. -/
def Clause.MayAnswer (clauses : List Clause) (rows : Value) : Prop :=
  ∃ items, rows = .list items ∧ ∀ row ∈ items, Clause.MayRow stored clauses row

end

section

variable {stored : Stored} {possible : Possible}

theorem Expression.oneMayBe_iff {entries : List (String × Expression)} {key : String}
    {value : Value} : OneMayBe stored possible entries key value ↔
      ∃ item, (key, item) ∈ entries ∧ item.MayBe stored possible value := by
  induction entries with
  | nil => simp [OneMayBe]
  | cons entry rest ih =>
      obtain ⟨other, first⟩ := entry
      rw [OneMayBe, ih]
      constructor
      · rintro (⟨rfl, here⟩ | ⟨item, member, there⟩)
        · exact ⟨first, List.mem_cons_self .., here⟩
        · exact ⟨item, List.mem_cons_of_mem _ member, there⟩
      · rintro ⟨item, member, holds⟩
        rcases List.mem_cons.mp member with here | later
        · cases here
          exact .inl ⟨rfl, holds⟩
        · exact .inr ⟨item, later, holds⟩

theorem Clause.afterAll_append (first second : List Clause) :
    afterAll stored possible (first ++ second) =
      afterAll stored (afterAll stored possible first) second :=
  List.foldl_append ..

theorem Clause.answers_append (first second : List Clause) :
    answers stored possible (first ++ second) =
      answers stored possible first ++ answers stored (afterAll stored possible first) second := by
  induction first generalizing possible with
  | nil => rfl
  | cons clause rest ih =>
      rw [List.cons_append, answers, answers, ih, List.append_assoc]
      rfl

/-- Clauses none of which answers have no answers. -/
theorem Clause.answers_eq_nil {clauses : List Clause}
    (silent : ∀ clause ∈ clauses, clause.returned = []) : answers stored possible clauses = [] := by
  induction clauses generalizing possible with
  | nil => rfl
  | cons clause rest ih =>
      rw [List.forall_mem_cons] at silent
      rw [answers, silent.1, ih silent.2]
      rfl

/-- Clauses that answer once, at their end, answer what holds there. -/
theorem Clause.answers_concat {body : List Clause} {columns : List Column}
    (silent : ∀ clause ∈ body, clause.returned = []) :
    answers stored possible (body ++ [.answer columns]) =
      [(columns, afterAll stored possible body)] := by
  rw [answers_append, answers_eq_nil silent]
  rfl

/-- A named column and variables that keep their names. -/
theorem Column.mayBe_iff {item : Expression} {first name : String} {names : List String}
    {value : Value} : MayBe stored possible (.as item first :: names.map .kept) name value ↔
      name = first ∧ item.MayBe stored possible value ∨ name ∈ names ∧ possible name value := by
  constructor
  · rintro ⟨column, member, named, holds⟩
    rcases List.mem_cons.mp member with rfl | member
    · exact .inl ⟨(Option.some.inj named).symm, holds⟩
    · obtain ⟨kept, inside, rfl⟩ := List.mem_map.mp member
      cases named
      exact .inr ⟨inside, holds⟩
  · rintro (⟨rfl, holds⟩ | ⟨inside, holds⟩)
    · exact ⟨_, List.mem_cons_self .., rfl, holds⟩
    · exact ⟨_, List.mem_cons_of_mem _ (List.mem_map_of_mem inside), rfl, holds⟩

theorem Column.mayBe_as {item : Expression} {name : String} {value : Value} :
    MayBe stored possible [.as item name] name value ↔ item.MayBe stored possible value := by
  have single : [Column.as item name] = .as item name :: [].map .kept := rfl
  rw [single, mayBe_iff]
  simp

/-- A subquery with one column leaves behind what the column may have. -/
theorem Clause.after_subquery_iff {imports : List String} {body : List Clause} {item : Expression}
    {name : String} {value : Value} (silent : ∀ clause ∈ body, clause.returned = []) :
    (subquery imports (body ++ [.answer [.as item name]])).after stored possible name value ↔
      item.MayBe stored (afterAll stored (possible.only imports) body) value := by
  have named : name ∈ answered (body ++ [.answer [.as item name]]) := by
    rw [answered_concat]
    exact List.mem_singleton_self _
  rw [after, Possible.rebind_of_mem named, answers_concat silent]
  simp only [Answers.MayBe, List.mem_singleton, exists_eq_left]
  exact Column.mayBe_as

theorem Clause.mem_of_after_unwind {items : Expression} {name : String} {value : Value}
    (holds : (unwind items name).after stored possible name value) :
    ∃ all, items.MayBe stored possible (.list all) ∧ value ∈ all := by
  rwa [after, Possible.rebind_of_mem (List.mem_singleton_self _)] at holds

/-- A row of clauses that answer once, at their end, has their columns. -/
theorem Clause.mayRow_concat {body : List Clause} {columns : List Column} {row : Value}
    (silent : ∀ clause ∈ body, clause.returned = [])
    (may : MayRow stored (body ++ [.answer columns]) row) :
    ∃ entries : Entries Value, row = .object entries ∧ entries.keys = Column.keys columns ∧
      ∀ entry ∈ entries,
        Column.MayBe stored (afterAll stored .unknown body) columns entry.1 entry.2 := by
  obtain ⟨answer, member, holds⟩ := may
  rw [answers_concat silent, List.mem_singleton] at member
  cases member
  exact holds

/-- Clauses that answer one column may answer a row with it. -/
theorem Clause.mayRow_of_single {body : List Clause} {item : Expression} {name : String}
    {value : Value} (silent : ∀ clause ∈ body, clause.returned = [])
    (holds : item.MayBe stored (afterAll stored .unknown body) value) :
    MayRow stored (body ++ [.answer [.as item name]]) (.object [(name, value)]) := by
  refine ⟨_, answers_concat silent ▸ List.mem_singleton_self _, _, rfl, rfl, fun entry member => ?_⟩
  rw [List.mem_singleton.mp member]
  exact Column.mayBe_as.mpr holds

theorem Clause.filtering_silent (conditions : List Expression) :
    ∀ clause ∈ filtering conditions, clause.returned = [] := by
  unfold filtering
  split
  · exact fun _ member => nomatch member
  · exact fun clause member => List.mem_singleton.mp member ▸ rfl

theorem Clause.setting_silent (assignments : List (Expression × Expression)) :
    ∀ clause ∈ setting assignments, clause.returned = [] := by
  unfold setting
  split
  · exact fun _ member => nomatch member
  · exact fun clause member => List.mem_singleton.mp member ▸ rfl

/-- A subquery that answers under names from a stretch of numbers. -/
def Clause.IsQuiet (start last : Nat) (clause : Clause) : Prop :=
  ∃ imports body, clause = .subquery imports body ∧
    ∀ name ∈ answered body, Between start last name

theorem Clause.IsQuiet.mono {start middle last final : Nat} {clause : Clause}
    (quiet : IsQuiet middle last clause) (lower : start ≤ middle) (upper : last ≤ final) :
    IsQuiet start final clause := by
  obtain ⟨imports, body, same, each⟩ := quiet
  exact ⟨imports, body, same, fun name member => (each name member).mono lower upper⟩

theorem Clause.IsQuiet.returned_eq_nil {start last : Nat} {clause : Clause}
    (quiet : IsQuiet start last clause) : clause.returned = [] := by
  obtain ⟨imports, body, rfl, -⟩ := quiet
  rfl

/-- Subqueries leave all variables alone but those under which they answer. -/
theorem Clause.afterAll_of_quiet {start last : Nat} {clauses : List Clause} {name : String}
    (quiet : ∀ clause ∈ clauses, clause.IsQuiet start last) (apart : ¬ Between start last name) :
    afterAll stored possible clauses name = possible name := by
  induction clauses generalizing possible with
  | nil => rfl
  | cons clause rest ih =>
      rw [List.forall_mem_cons] at quiet
      obtain ⟨⟨imports, body, rfl, each⟩, later⟩ := quiet
      rw [afterAll, List.foldl_cons]
      refine (ih later).trans ?_
      rw [after, Possible.rebind_of_not_mem fun member => apart (each name member)]

end

end GraphGateway.Cypher
