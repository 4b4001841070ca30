import GraphGateway.Cypher.Clause

/-!
Keys of maps.  A map literal of a statement answers one value for each of its keys, so that its keys
have to be different; the keys of all map literals are collected here, those of subqueries included.
-/
namespace GraphGateway.Cypher

mutual

/-- The keys of each map literal of an expression. -/
def Expression.mapKeys : Expression → List (List String)
  | .compare _ first second => first.mapKeys ++ second.mapKeys
  | .isMissing item => item.mapKeys
  | .isPresent item => item.mapKeys
  | .plus first second => first.mapKeys ++ second.mapKeys
  | .map entries => entries.map Prod.fst :: Expression.entryMapKeys entries
  | .list items => Expression.itemMapKeys items
  | .report path matched => ["path", "matched"] :: (path.mapKeys ++ matched.mapKeys)
  | .collect item => item.mapKeys
  | .head items => items.mapKeys
  | .count item => item.mapKeys
  | .positions items => items.mapKeys
  | .at items position => items.mapKeys ++ position.mapKeys
  | _ => []

def Expression.itemMapKeys : List Expression → List (List String)
  | [] => []
  | item :: rest => item.mapKeys ++ Expression.itemMapKeys rest

def Expression.entryMapKeys : List (String × Expression) → List (List String)
  | [] => []
  | (_, item) :: rest => item.mapKeys ++ Expression.entryMapKeys rest

end

def assignmentMapKeys (assignments : List (Expression × Expression)) : List (List String) :=
  assignments.flatMap fun assignment => assignment.1.mapKeys ++ assignment.2.mapKeys

def columnMapKeys (columns : List Column) : List (List String) :=
  columns.flatMap fun column => column.value.mapKeys

mutual

/-- The keys of each map literal of a clause. -/
def Clause.mapKeys : Clause → List (List String)
  | .filter conditions => Expression.itemMapKeys conditions
  | .merge _ _ name => ["name"] :: name.mapKeys
  | .set assignments => assignmentMapKeys assignments
  | .setOnCreate target value => target.mapKeys ++ value.mapKeys
  | .carry columns => columnMapKeys columns
  | .order key => key.mapKeys
  | .limit count => count.mapKeys
  | .unwind items _ => items.mapKeys
  | .answer columns => columnMapKeys columns
  | .subquery _ body => Clause.mapKeysOf body
  | _ => []

def Clause.mapKeysOf : List Clause → List (List String)
  | [] => []
  | clause :: rest => clause.mapKeys ++ Clause.mapKeysOf rest

end

/-- Map literals of which each has different keys. -/
def AreDistinct (maps : List (List String)) : Prop := ∀ keys ∈ maps, keys.Nodup

instance (maps : List (List String)) : Decidable (AreDistinct maps) :=
  inferInstanceAs (Decidable (∀ keys ∈ maps, keys.Nodup))

@[simp] theorem areDistinct_nil : AreDistinct [] := fun _ member => nomatch member

@[simp] theorem areDistinct_cons {keys : List String} {rest : List (List String)} :
    AreDistinct (keys :: rest) ↔ keys.Nodup ∧ AreDistinct rest := by
  simp [AreDistinct]

@[simp] theorem areDistinct_append {first second : List (List String)} :
    AreDistinct (first ++ second) ↔ AreDistinct first ∧ AreDistinct second := by
  simp only [AreDistinct, List.mem_append, or_imp, forall_and]

@[simp] theorem Expression.entryMapKeys_append (first second : List (String × Expression)) :
    Expression.entryMapKeys (first ++ second) =
      Expression.entryMapKeys first ++ Expression.entryMapKeys second := by
  induction first with
  | nil => rfl
  | cons entry rest ih => simp [Expression.entryMapKeys, ih]

@[simp] theorem Clause.mapKeysOf_append (first second : List Clause) :
    Clause.mapKeysOf (first ++ second) = Clause.mapKeysOf first ++ Clause.mapKeysOf second := by
  induction first with
  | nil => rfl
  | cons clause rest ih => simp [Clause.mapKeysOf, ih]

@[simp] theorem Clause.mapKeysOf_filtering (conditions : List Expression) :
    Clause.mapKeysOf (Clause.filtering conditions) = Expression.itemMapKeys conditions := by
  cases conditions <;> simp [Clause.filtering, Clause.mapKeysOf, Clause.mapKeys,
    Expression.itemMapKeys]

@[simp] theorem Clause.mapKeysOf_setting (assignments : List (Expression × Expression)) :
    Clause.mapKeysOf (Clause.setting assignments) = assignmentMapKeys assignments := by
  cases assignments <;> simp [Clause.setting, Clause.mapKeysOf, Clause.mapKeys, assignmentMapKeys]

/-- The lists of some variables one after another hold no map literal. -/
@[simp] theorem mapKeys_concatenation (names : List String) :
    (concatenation names).mapKeys = [] := by
  cases names with
  | nil => rfl
  | cons name rest =>
      have kept : ∀ sum : Expression, sum.mapKeys = [] →
          (rest.foldl (fun sum next => .plus sum (.variable next)) sum).mapKeys = [] := by
        induction rest with
        | nil => exact fun _ none_ => none_
        | cons next others ih =>
            intro sum none_
            exact ih _ (by simp [Expression.mapKeys, none_])
      exact kept (.variable name) rfl

theorem itemMapKeys_variables (names : List String) :
    Expression.itemMapKeys (names.map .variable) = [] := by
  induction names with
  | nil => rfl
  | cons name rest ih => simpa [Expression.itemMapKeys, Expression.mapKeys] using ih

theorem columnMapKeys_kept (names : List String) :
    columnMapKeys (names.map Column.kept) = [] := by
  simp [columnMapKeys, Column.kept, Expression.mapKeys]

end GraphGateway.Cypher
