import GraphGateway.Cypher.Clause
import GraphGateway.Proofs.Cypher.Supply

/-!
Scopes of clauses.  The scope at a point of a statement holds the variables that may be used there.
A pattern starts from variables in scope and brings new ones.  A clause that carries columns on
leaves their names in scope and nothing else.  A subquery sees what it imports, and the names that
it answers join the scope around it, where they must be new.
-/
namespace GraphGateway.Cypher

/-- The variables that may be used at a point of a statement. -/
abbrev Scope := List String

/-- Names that can join a scope: none of them is in it, and no two are the same. -/
def Scope.Lacks (scope : Scope) (names : List String) : Prop :=
  names.Nodup ∧ ∀ name ∈ names, name ∉ scope

instance (scope : Scope) (names : List String) : Decidable (scope.Lacks names) :=
  inferInstanceAs (Decidable (_ ∧ _))

mutual

/-- The variables that an expression uses. -/
def Expression.variables : Expression → List String
  | .variable name => [name]
  | .parameter _ => []
  | .property owner _ => [owner]
  | .counted counter => [counter]
  | .number _ => []
  | .text _ => []
  | .no => []
  | .freshIdentifier => []
  | .compare _ first second => first.variables ++ second.variables
  | .isMissing item => item.variables
  | .isPresent item => item.variables
  | .plus first second => first.variables ++ second.variables
  | .map entries => Expression.entryVariables entries
  | .list items => Expression.itemVariables items
  | .report path matched => path.variables ++ matched.variables
  | .collect item => item.variables
  | .head items => items.variables
  | .count item => item.variables
  | .positions items => items.variables
  | .at items position => items.variables ++ position.variables

def Expression.itemVariables : List Expression → List String
  | [] => []
  | item :: rest => item.variables ++ Expression.itemVariables rest

def Expression.entryVariables : List (String × Expression) → List String
  | [] => []
  | (_, item) :: rest => item.variables ++ Expression.entryVariables rest

end

theorem Expression.entryVariables_append (entries others : List (String × Expression)) :
    entryVariables (entries ++ others) = entryVariables entries ++ entryVariables others := by
  induction entries with
  | nil => rfl
  | cons entry rest ih =>
      obtain ⟨key, item⟩ := entry
      rw [List.cons_append, entryVariables, entryVariables, ih, List.append_assoc]

theorem Expression.itemVariables_map (names : List String) :
    itemVariables (names.map .variable) = names := by
  induction names with
  | nil => rfl
  | cons name rest ih =>
      rw [List.map_cons, itemVariables, ih]
      rfl

theorem variables_concatenation (names : List String) :
    (concatenation names).variables = names := by
  have folded : ∀ (rest : List String) (first : Expression),
      (rest.foldl (fun sum next => Expression.plus sum (.variable next)) first).variables =
        first.variables ++ rest := by
    intro rest
    induction rest with
    | nil => exact fun first => (List.append_nil _).symm
    | cons next rest ih =>
        intro first
        rw [List.foldl_cons, ih, Expression.variables, Expression.variables, List.append_assoc]
        rfl
  cases names with
  | nil => rfl
  | cons name rest => exact folded rest (.variable name)

/-- A column of joined reports needs the reports in scope. -/
theorem concatenation_bound {scope : Scope} {names : List String} (inside : names ⊆ scope)
    (name : String) : (Column.as (concatenation names) name).value.variables ⊆ scope := by
  rw [Column.as, variables_concatenation]
  exact inside

namespace Pattern

/-- A variable of a pattern, which may be empty. -/
def named (name : String) : List String :=
  if name = "" then [] else [name]

/-- The variable that a pattern starts from where it is matched. -/
def anchors : Pattern → List String
  | node _ => []
  | relationship pattern => [pattern.source]

/-- The variables that a pattern brings where it is matched. -/
def matched : Pattern → List String
  | node pattern => named pattern.name
  | relationship pattern => named pattern.name ++ named pattern.target.name

/-- The variables of the nodes that a relationship is created between. -/
def endpoints : Pattern → List String
  | node _ => []
  | relationship pattern => [pattern.source, pattern.target.name]

/-- The variables that a pattern brings where it is created. -/
def made : Pattern → List String
  | node pattern => named pattern.name
  | relationship pattern => named pattern.name

end Pattern

/-- The name that a column is known by. -/
def Column.key? : Column → Option String
  | ⟨_, some name⟩ => some name
  | ⟨.variable name, none⟩ => some name
  | _ => none

/-- The names that columns are known by. -/
def Column.keys (columns : List Column) : List String :=
  columns.filterMap Column.key?

theorem Column.keys_kept (names : List String) : Column.keys (names.map Column.kept) = names := by
  rw [Column.keys, List.filterMap_map]
  exact List.filterMap_some

/-- Columns over variables in scope, each with a name of its own. -/
def Column.AreBound (scope : Scope) (columns : List Column) : Prop :=
  (∀ column ∈ columns, column.value.variables ⊆ scope ∧ column.key?.isSome = true) ∧
    (Column.keys columns).Nodup

instance (scope : Scope) (columns : List Column) : Decidable (Column.AreBound scope columns) :=
  inferInstanceAs (Decidable (_ ∧ _))

namespace Clause

/-- The names that clauses answer at their end. -/
def answered (clauses : List Clause) : List String :=
  match clauses.getLast? with
  | some (.answer columns) => Column.keys columns
  | _ => []

/-- The scope behind a clause.  Behind a union the next branch starts with none. -/
def behind (scope : Scope) : Clause → Scope
  | .find pattern => scope ++ pattern.matched
  | .findOptional pattern => scope ++ pattern.matched
  | .filter _ => scope
  | .create pattern => scope ++ pattern.made
  | .merge counter _ _ => scope ++ [counter]
  | .set _ => scope
  | .setOnCreate _ _ => scope
  | .carry columns => Column.keys columns
  | .order _ => scope
  | .limit _ => scope
  | .unwind _ name => scope ++ [name]
  | .answer columns => Column.keys columns
  | .union => []
  | .subquery _ body => scope ++ answered body

mutual

/-- A clause that keeps the rules of scopes: what it uses is in scope, and what it brings is new.
What it answers is new in the scope `outer` around the subquery that it stands in. -/
def IsScoped (outer scope : Scope) : Clause → Prop
  | .find pattern => pattern.anchors ⊆ scope ∧ scope.Lacks pattern.matched
  | .findOptional pattern => pattern.anchors ⊆ scope ∧ scope.Lacks pattern.matched
  | .filter conditions => ∀ condition ∈ conditions, condition.variables ⊆ scope
  | .create pattern => pattern.endpoints ⊆ scope ∧ scope.Lacks pattern.made
  | .merge counter _ name => name.variables ⊆ scope ∧ scope.Lacks [counter]
  | .set assignments => ∀ assignment ∈ assignments,
      assignment.1.variables ⊆ scope ∧ assignment.2.variables ⊆ scope
  | .setOnCreate target value => target.variables ⊆ scope ∧ value.variables ⊆ scope
  | .carry columns => Column.AreBound scope columns
  | .order key => key.variables ⊆ scope
  | .limit count => count.variables ⊆ scope
  | .unwind items name => items.variables ⊆ scope ∧ scope.Lacks [name]
  | .answer columns => Column.AreBound scope columns ∧ ∀ name ∈ Column.keys columns, name ∉ outer
  | .union => True
  | .subquery imports body => imports ⊆ scope ∧ AreScoped scope imports body

/-- Clauses that keep the rules of scopes one after another. -/
def AreScoped (outer scope : Scope) : List Clause → Prop
  | [] => True
  | clause :: rest => clause.IsScoped outer scope ∧ AreScoped outer (behind scope clause) rest

end

mutual

/-- Decides whether a clause keeps the rules of scopes. -/
def decideScoped (outer scope : Scope) : (clause : Clause) → Decidable (clause.IsScoped outer scope)
  | .find _ => inferInstanceAs (Decidable (_ ∧ _))
  | .findOptional _ => inferInstanceAs (Decidable (_ ∧ _))
  | .filter conditions => inferInstanceAs (Decidable (∀ condition ∈ conditions, _))
  | .create _ => inferInstanceAs (Decidable (_ ∧ _))
  | .merge _ _ _ => inferInstanceAs (Decidable (_ ∧ _))
  | .set assignments => inferInstanceAs (Decidable (∀ assignment ∈ assignments, _ ∧ _))
  | .setOnCreate _ _ => inferInstanceAs (Decidable (_ ∧ _))
  | .carry _ => inferInstanceAs (Decidable (Column.AreBound _ _))
  | .order key => inferInstanceAs (Decidable (key.variables ⊆ scope))
  | .limit count => inferInstanceAs (Decidable (count.variables ⊆ scope))
  | .unwind _ _ => inferInstanceAs (Decidable (_ ∧ _))
  | .answer _ => inferInstanceAs (Decidable (_ ∧ ∀ name ∈ _, _))
  | .union => inferInstanceAs (Decidable True)
  | .subquery imports body =>
      have := decideAllScoped scope imports body
      inferInstanceAs (Decidable (_ ∧ _))

def decideAllScoped (outer scope : Scope) :
    (clauses : List Clause) → Decidable (AreScoped outer scope clauses)
  | [] => inferInstanceAs (Decidable True)
  | clause :: rest =>
      have := clause.decideScoped outer scope
      have := decideAllScoped outer (behind scope clause) rest
      inferInstanceAs (Decidable (_ ∧ _))

end

instance (outer scope : Scope) (clause : Clause) : Decidable (clause.IsScoped outer scope) :=
  clause.decideScoped outer scope

instance (outer scope : Scope) (clauses : List Clause) : Decidable (AreScoped outer scope clauses) :=
  decideAllScoped outer scope clauses

/-- A subquery sees no more than it imports. -/
example : ¬ AreScoped [] ["this"] [.subquery [] [.answer [.as (.property "this" "title") "title"]]] := by
  decide

/-- What a subquery answers must be new around it. -/
example : ¬ AreScoped [] ["this"] [.subquery ["this"] [.answer [.kept "this"]]] := by
  decide

/-- Clauses that keep the rules of scopes and lead from one scope to another. -/
structure Passes (outer scope : Scope) (clauses : List Clause) (left : Scope) : Prop where
  keeps : AreScoped outer scope clauses
  left_eq : clauses.foldl behind scope = left

section

variable {outer scope middle left : Scope} {clause : Clause} {clauses others : List Clause}

theorem Passes.nil : Passes outer scope [] scope := ⟨trivial, rfl⟩

theorem Passes.cons (first : clause.IsScoped outer scope)
    (rest : Passes outer (behind scope clause) clauses left) :
    Passes outer scope (clause :: clauses) left :=
  ⟨⟨first, rest.keeps⟩, rest.left_eq⟩

theorem Passes.append (first : Passes outer scope clauses middle)
    (rest : Passes outer middle others left) : Passes outer scope (clauses ++ others) left := by
  induction clauses generalizing scope with
  | nil =>
      obtain rfl : scope = middle := first.left_eq
      exact rest
  | cons clause more ih =>
      obtain ⟨⟨here, later⟩, same⟩ := first
      exact .cons here (ih ⟨later, same⟩)

theorem answered_concat (columns : List Column) :
    answered (clauses ++ [.answer columns]) = Column.keys columns := by
  unfold answered
  rw [List.getLast?_concat]

section

variable {pattern : Pattern} {names : List String}

theorem Passes.find (bound : pattern.anchors ⊆ scope) (brings : pattern.matched = names)
    (new : scope.Lacks names) : Passes outer scope [.find pattern] (scope ++ names) := by
  subst brings
  exact .cons ⟨bound, new⟩ .nil

theorem Passes.findOptional (bound : pattern.anchors ⊆ scope) (brings : pattern.matched = names)
    (new : scope.Lacks names) : Passes outer scope [.findOptional pattern] (scope ++ names) := by
  subst brings
  exact .cons ⟨bound, new⟩ .nil

theorem Passes.create (bound : pattern.endpoints ⊆ scope) (brings : pattern.made = names)
    (new : scope.Lacks names) : Passes outer scope [.create pattern] (scope ++ names) := by
  subst brings
  exact .cons ⟨bound, new⟩ .nil

end

section

variable {columns : List Column} {names : List String}
  (bound : ∀ column ∈ columns, column.value.variables ⊆ scope ∧ column.key?.isSome = true)
  (keys : Column.keys columns = names) (distinct : names.Nodup)

include bound keys distinct

theorem Passes.carry : Passes outer scope [.carry columns] names :=
  .cons ⟨bound, keys ▸ distinct⟩ ⟨trivial, keys⟩

theorem Passes.answer (new : ∀ name ∈ names, name ∉ outer) :
    Passes outer scope [.answer columns] names :=
  .cons ⟨⟨bound, keys ▸ distinct⟩, keys ▸ new⟩ ⟨trivial, keys⟩

end

/-- A subquery adds the names that it answers. -/
theorem Passes.subquery {imports names : List String} {columns : List Column}
    (inside : imports ⊆ scope) (body : Passes scope imports clauses middle)
    (answers : Passes scope middle [.answer columns] names) :
    Passes outer scope [.subquery imports (clauses ++ [.answer columns])] (scope ++ names) := by
  have keys : Column.keys columns = names := answers.left_eq
  refine .cons ⟨inside, (body.append answers).keeps⟩ ⟨trivial, ?_⟩
  rw [List.foldl_nil, behind, answered_concat, keys]

end

end Clause

theorem Scope.single {scope : Scope} {name : String} (bound : name ∈ scope) : [name] ⊆ scope :=
  List.cons_subset.mpr ⟨bound, List.nil_subset scope⟩

theorem Scope.Lacks.single {scope : Scope} {name : String} (outside : name ∉ scope) :
    scope.Lacks [name] :=
  ⟨List.pairwise_singleton _ name, fun _ member => List.mem_singleton.mp member ▸ outside⟩

section

variable {start middle last final : Nat} {name other : String}

theorem Pattern.named_of_ne_empty (some_ : name ≠ "") : named name = [name] := if_neg some_

theorem KnownBy.lacks {scope : Scope} (known : KnownBy start scope)
    (between : Between start last name) : scope.Lacks [name] :=
  .single (known.not_mem between)

/-- Names given out one after the other are new together. -/
theorem KnownBy.lacks_pair {scope : Scope} (known : KnownBy start scope)
    (first : Between start middle name) (second : Between last final other)
    (apart : middle ≤ last) : scope.Lacks [name, other] := by
  have later : KnownBy last scope := known.mono (Nat.le_trans (Nat.le_of_lt ?_) apart)
  · refine ⟨List.nodup_cons.mpr ⟨?_, List.pairwise_singleton _ other⟩, ?_⟩
    · rw [List.mem_singleton]
      exact first.ne second apart
    · intro another member
      rcases List.mem_cons.mp member with rfl | member
      · exact known.not_mem first
      · rw [List.mem_singleton.mp member]
        exact later.not_mem second
  · obtain ⟨base, number, -, above, below⟩ := first
    exact Nat.lt_of_lt_of_le above below

/-- Clauses that may stand wherever some variables are in scope and all names in scope are known by
`start`: they leave in scope what was there, and what they add is known by `last`.  The variables in
`used` are in scope behind them. -/
def Clause.Widen (needed : List String) (start last : Nat) (clauses : List Clause)
    (used : List String) : Prop :=
  ∀ outer scope, needed ⊆ scope → KnownBy start scope → ∃ left, Clause.Passes outer scope clauses left ∧
    scope ⊆ left ∧ used ⊆ left ∧ KnownBy last left

namespace Clause.Widen

variable {needed others used added : List String} {clauses rest : List Clause}

theorem nil (fewer : used ⊆ needed) (later : start ≤ last) : Widen needed start last [] used :=
  fun _ scope bound known =>
    ⟨scope, .nil, List.Subset.refl _, List.Subset.trans fewer bound, known.mono later⟩

theorem mono (widen : Widen needed start last clauses used) (more : needed ⊆ others)
    (fewer : added ⊆ used) (later : last ≤ final) : Widen others start final clauses added := by
  intro outer scope bound known
  obtain ⟨left, passes, kept, inside, knownLeft⟩ := widen outer scope (List.Subset.trans more bound) known
  exact ⟨left, passes, kept, List.Subset.trans fewer inside, knownLeft.mono later⟩

theorem append (first : Widen needed start middle clauses used)
    (second : Widen needed middle last rest added) :
    Widen needed start last (clauses ++ rest) (used ++ added) := by
  intro outer scope bound known
  obtain ⟨between, passes, kept, inside, knownBetween⟩ := first outer scope bound known
  obtain ⟨left, passesOn, keptOn, insideOn, knownLeft⟩ :=
    second outer between (List.Subset.trans bound kept) knownBetween
  refine ⟨left, passes.append passesOn, List.Subset.trans kept keptOn, ?_, knownLeft⟩
  exact List.append_subset.mpr ⟨List.Subset.trans inside keptOn, insideOn⟩

/-- A subquery that answers one new name. -/
theorem subquery {imports : List String} {inner : List Clause} {value : Expression} {result : String}
    (new : Between start middle result) (later : middle ≤ last)
    (body : ∀ outer, KnownBy start imports → ∃ left, Passes outer imports inner left ∧
      value.variables ⊆ left) :
    Widen imports start last [.subquery imports (inner ++ [.answer [.as value result]])] [result] := by
  intro outer scope bound known
  obtain ⟨left, passes, inside⟩ := body scope (known.of_subset bound)
  have answers : Passes scope left [.answer [.as value result]] [result] := by
    refine .answer ?_ rfl (List.pairwise_singleton _ result) ?_
    · intro column member
      rw [List.mem_singleton.mp member]
      exact ⟨inside, rfl⟩
    · intro name member
      rw [List.mem_singleton.mp member]
      exact known.not_mem new
  refine ⟨scope ++ [result], .subquery bound passes answers, List.subset_append_left _ _,
    List.subset_append_right _ _, ?_⟩
  have small : KnownBy last scope := known.mono ?_
  · exact small.append (new.known.mono later)
  · obtain ⟨base, number, -, above, below⟩ := new
    omega

end Clause.Widen

end

end GraphGateway.Cypher
