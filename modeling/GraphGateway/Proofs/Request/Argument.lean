import GraphGateway.Proofs.Outcome
import GraphGateway.Proofs.Value.Outline
import GraphGateway.Request.Argument

/-!
Laws of arguments.  Where an object is meant, a value that counts as nothing stands for an empty
one, and any other value that is no object is refused.
-/
namespace GraphGateway.Request

open Outcome (Agree)

/-- The entries that a value stands for where an object is meant. -/
def entriesOf? : Value → Option (Entries Value)
  | .object entries => some entries
  | value => if value.isTruthy then none else some []

theorem entriesOf?_eq_nil {value : Value} {entries : Entries Value}
    (flat : ∀ entries, value ≠ .object entries) (read : entriesOf? value = some entries) :
    entries = [] := by
  unfold entriesOf? at read
  split at read
  · exact absurd rfl (flat _)
  · split at read
    · cases read
    · cases read
      rfl

/-- Two values of one outline that stand for entries stand for entries of one outline. -/
theorem entriesOf?_alike {one other : Value} {entries others : Entries Value}
    (same : one.outline = other.outline) (here : entriesOf? one = some entries)
    (there : entriesOf? other = some others) :
    Value.outlineEntries entries = Value.outlineEntries others := by
  cases Value.alike_of_outline same with
  | null =>
      cases here
      cases there
      rfl
  | leaf first second =>
      rw [entriesOf?_eq_nil (Value.ne_object_of_isLeaf first) here,
        entriesOf?_eq_nil (Value.ne_object_of_isLeaf second) there]
  | list items =>
      rw [entriesOf?_eq_nil (Value.list_ne_object _) here,
        entriesOf?_eq_nil (Value.list_ne_object _) there]
  | object entriesSame =>
      cases here
      cases there
      exact entriesSame

theorem objectEntries_ok_iff {value : Value} {entries : Entries Value} :
    objectEntries value = .ok entries ↔ value = .object entries := by
  cases value <;> simp [objectEntries]

theorem entriesOf?_orEmpty (value : Value) : entriesOf? (orEmpty (some value)) = entriesOf? value := by
  unfold orEmpty
  cases value with
  | object entries =>
      cases entries <;> rfl
  | _ =>
      dsimp only
      split <;> simp [entriesOf?, *]

theorem entriesOf?_orEmpty_alike {one other : Option Value} {entries others : Entries Value}
    (same : one.map Value.outline = other.map Value.outline)
    (here : entriesOf? (orEmpty one) = some entries)
    (there : entriesOf? (orEmpty other) = some others) :
    Value.outlineEntries entries = Value.outlineEntries others := by
  cases one with
  | none =>
      cases other with
      | none =>
          cases here
          cases there
          rfl
      | some value => cases same
  | some value =>
      cases other with
      | none => cases same
      | some item =>
          rw [entriesOf?_orEmpty] at here there
          exact entriesOf?_alike (Option.some.inj same) here there

theorem objectEntries_orEmpty_ok_iff {value : Value} {entries : Entries Value} :
    objectEntries (orEmpty (some value)) = .ok entries ↔ entriesOf? value = some entries := by
  unfold orEmpty
  cases value with
  | object others =>
      cases others <;> simp [objectEntries, entriesOf?, Value.isTruthy]
  | _ =>
      dsimp only [entriesOf?]
      split <;> simp [objectEntries]

theorem objectEntries_orEmpty_agree {one other : Value} (same : one.outline = other.outline) :
    Agree Value.outlineEntries (objectEntries (orEmpty (some one)))
      (objectEntries (orEmpty (some other))) := by
  intro entries others here there
  rw [objectEntries_orEmpty_ok_iff] at here there
  exact entriesOf?_alike same here there

theorem itemsOf_list (items : List Value) : itemsOf (.list items) = .ok items := by
  cases items <;> rfl

theorem itemsOf_object (entries : List (String × Value)) :
    itemsOf (.object entries) = .ok ((Entries.keys entries).map .text) := by
  unfold itemsOf Entries.keys
  cases entries with
  | nil => rfl
  | cons entry rest => simp [Value.isTruthy, elementsOf]

/-- A text where an object is meant. -/
def IsText (value : Value) : Prop :=
  ∃ content, value = .text content

/-- A leaf has no items but characters. -/
theorem texts_of_isLeaf {value : Value} {items : List Value} (leaf : value.isLeaf = true)
    (read : itemsOf value = .ok items) : ∀ item ∈ items, IsText item := by
  unfold itemsOf at read
  split at read
  · cases value with
    | text content =>
        cases read
        intro item member
        obtain ⟨c, -, rfl⟩ := List.mem_map.mp member
        exact ⟨_, rfl⟩
    | null => cases leaf
    | list items => cases leaf
    | object entries => cases leaf
    | _ => cases read
  · cases read
    exact fun item member => absurd member List.not_mem_nil

/-- The items of two values of one outline have one outline, or they are all texts. -/
theorem itemsOf_alike {one other : Value} {items others : List Value}
    (same : one.outline = other.outline) (here : itemsOf one = .ok items)
    (there : itemsOf other = .ok others) :
    items.map Value.outline = others.map Value.outline ∨
      (∀ item ∈ items, IsText item) ∧ ∀ item ∈ others, IsText item := by
  cases Value.alike_of_outline same with
  | null =>
      cases here
      cases there
      exact .inl rfl
  | leaf first second =>
      exact .inr ⟨texts_of_isLeaf first here, texts_of_isLeaf second there⟩
  | @list elements parts elementsSame =>
      rw [itemsOf_list] at here there
      cases here
      cases there
      exact .inl elementsSame
  | @object entries parts entriesSame =>
      rw [itemsOf_object] at here there
      cases here
      cases there
      rw [Value.keys_alike entriesSame]
      exact .inl rfl

end GraphGateway.Request
