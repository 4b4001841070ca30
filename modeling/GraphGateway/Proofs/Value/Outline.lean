import GraphGateway.Value

/-!
Outlines of values.  The outline keeps the nulls, the lengths of lists and the keys of objects, and
has one and the same value for every other leaf.
-/
namespace GraphGateway.Value

mutual

/-- A value with all leaves but nulls made the same. -/
def outline : Value → Value
  | .null => .null
  | .list items => .list (outlineItems items)
  | .object entries => .object (outlineEntries entries)
  | _ => .bool true

def outlineItems : List Value → List Value
  | [] => []
  | item :: rest => item.outline :: outlineItems rest

def outlineEntries : List (String × Value) → List (String × Value)
  | [] => []
  | (key, item) :: rest => (key, item.outline) :: outlineEntries rest

end

/-- A value that has no parts and is not null. -/
def isLeaf : Value → Bool
  | .null => false
  | .list _ => false
  | .object _ => false
  | _ => true

theorem outlineItems_eq_map (items : List Value) : outlineItems items = items.map outline := by
  induction items with
  | nil => rfl
  | cons item rest ih => rw [outlineItems, ih, List.map_cons]

theorem list_ne_object (items : List Value) (entries : List (String × Value)) :
    Value.list items ≠ .object entries := by
  intro same
  cases same

theorem ne_object_of_isLeaf {value : Value} (leaf : value.isLeaf = true)
    (entries : List (String × Value)) : value ≠ .object entries := by
  intro same
  rw [same] at leaf
  cases leaf

theorem ne_list_of_isLeaf {value : Value} (leaf : value.isLeaf = true) (items : List Value) :
    value ≠ .list items := by
  intro same
  rw [same] at leaf
  cases leaf

@[simp] theorem isNull_outline (value : Value) : value.outline.isNull = value.isNull := by
  cases value <;> rfl

theorem isNull_eq_of_outline {one other : Value} (same : one.outline = other.outline) :
    one.isNull = other.isNull := by
  rw [← isNull_outline one, same, isNull_outline]

@[simp] theorem get?_outlineEntries (entries : List (String × Value)) (key : String) :
    Entries.get? (outlineEntries entries) key = (Entries.get? entries key).map outline := by
  induction entries with
  | nil => rfl
  | cons entry rest ih =>
      obtain ⟨other, item⟩ := entry
      rw [outlineEntries, Entries.get?_cons, Entries.get?_cons, ih]
      split <;> rfl

@[simp] theorem keys_outlineEntries (entries : List (String × Value)) :
    Entries.keys (outlineEntries entries) = Entries.keys entries := by
  induction entries with
  | nil => rfl
  | cons entry rest ih =>
      obtain ⟨other, item⟩ := entry
      rw [outlineEntries]
      simpa [Entries.keys] using ih

/-- How two values of one outline can look. -/
inductive Alike : Value → Value → Prop where
  | null : Alike .null .null
  | leaf {one other : Value} (first : one.isLeaf = true) (second : other.isLeaf = true) :
      Alike one other
  | list {items others : List Value} (same : items.map outline = others.map outline) :
      Alike (.list items) (.list others)
  | object {entries others : List (String × Value)}
      (same : outlineEntries entries = outlineEntries others) :
      Alike (.object entries) (.object others)

theorem alike_of_outline {one other : Value} (same : one.outline = other.outline) :
    Alike one other := by
  cases one with
  | null =>
      cases other with
      | null => exact .null
      | _ => cases same
  | list items =>
      cases other with
      | list others =>
          rw [outline, outline, outlineItems_eq_map, outlineItems_eq_map] at same
          exact .list (Value.list.inj same)
      | _ => cases same
  | object entries =>
      cases other with
      | object others => exact .object (Value.object.inj same)
      | _ => cases same
  | _ =>
      cases other with
      | null => cases same
      | list others => cases same
      | object others => cases same
      | _ => exact .leaf rfl rfl

/-- Entries of one outline have the same keys, and values of one outline under each. -/
theorem get?_alike {entries others : List (String × Value)}
    (same : outlineEntries entries = outlineEntries others) (key : String) :
    (Entries.get? entries key).map outline = (Entries.get? others key).map outline := by
  rw [← get?_outlineEntries, same, get?_outlineEntries]

theorem keys_alike {entries others : List (String × Value)}
    (same : outlineEntries entries = outlineEntries others) :
    Entries.keys entries = Entries.keys others := by
  rw [← keys_outlineEntries, same, keys_outlineEntries]

/-- Outlines of what is looked up, with null where nothing is found. -/
theorem getD_alike {entries others : List (String × Value)}
    (same : outlineEntries entries = outlineEntries others) (key : String) :
    ((Entries.get? entries key).getD .null).outline =
      ((Entries.get? others key).getD .null).outline := by
  have found := get?_alike same key
  cases here : Entries.get? entries key with
  | none =>
      cases there : Entries.get? others key with
      | none => rfl
      | some other => simp [here, there] at found
  | some value =>
      cases there : Entries.get? others key with
      | none => simp [here, there] at found
      | some other => simpa [here, there] using found

end GraphGateway.Value
