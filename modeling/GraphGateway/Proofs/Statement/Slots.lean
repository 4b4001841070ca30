import GraphGateway.Proofs.Paging.Cursor
import GraphGateway.Proofs.Statement.Keys
import GraphGateway.Statement.Answer

/-!
Slots of maps.  A selection says twice what maps look like: those of the rows that it is answered
from, and those of its answer.  Each is told by slots, which are keys with what has to stand under
them: first those that answering relies on in the map of a row, then those that an answer has, in the
order of the selection.
-/
namespace GraphGateway.Statement

open Paging (IsShort)
open Request

/-- A key of a map, with what the value under it has to be. -/
abbrev Slot := String × (Value → Prop)

/-- No map. -/
def IsFlat (value : Value) : Prop := ∀ entries, value ≠ .object entries

/-- A number that can be the place of an edge in the order of creation. -/
def IsPosition (value : Value) : Prop := ∃ number : Nat, IsShort number ∧ value = .int number

/-- A map in which all slots are filled; what is not sure may be no map at all. -/
def HasSlots (sure : Prop) (slots : List Slot) : Value → Prop
  | .object entries =>
      ∀ slot ∈ slots, ∃ value, Entries.get? entries slot.1 = some value ∧ slot.2 value
  | _ => ¬ sure

/-- A map with just the keys of some slots, in their order. -/
def IsMapOf (slots : List Slot) (value : Value) : Prop :=
  ∃ entries : Entries Value, value = .object entries ∧
    List.Forall₂ (fun slot entry => entry.1 = slot.1 ∧ slot.2 entry.2) slots entries

/-- A node, or none. -/
def IsNode (inside : Value → Prop) (value : Value) : Prop := value = .null ∨ inside value

/-- A node or none, or a list of them. -/
def IsRelated (inside : Value → Prop) : Value → Prop
  | .list items => ∀ item ∈ items, IsNode inside item
  | value => IsNode inside value

def IsListOf (inside : Value → Prop) (value : Value) : Prop :=
  ∃ items, value = .list items ∧ ∀ item ∈ items, inside item

section

variable (sure : Prop)

/-- The slots of the map of an edge that has some sets of fields. -/
def positionSlots (sets : List Slot) : List Slot :=
  (sequenceKey, fun key => sure → IsPosition key) :: sets

/-- The slots of the map of a connection. -/
def pageSlots (sets : List Slot) : List Slot :=
  [(edgesKey, IsListOf (HasSlots sure (positionSlots sure sets))), (hasPreviousKey, fun _ => True)]

mutual

/-- The slot of a field in the map of its node. -/
def fieldSlots : NodeField → List Slot
  | .leaf leaf => if leaf.name = Graphql.typenameName then [] else [(leaf.key, IsFlat)]
  | .relationship key _ _ fields => [(key, IsRelated (HasSlots sure (nodeSlots fields)))]
  | .connection key _ _ _ fields => [(key, HasSlots sure (pageSlots sure (connectionSlots fields)))]

def nodeSlots : List NodeField → List Slot
  | [] => []
  | field :: rest => fieldSlots field ++ nodeSlots rest

/-- The slots of the sets of fields that are selected on the edges of a connection. -/
def connectionSlots : List ConnectionField → List Slot
  | [] => []
  | .edges key fields :: rest => (key, HasSlots sure (edgeSlots fields)) :: connectionSlots rest
  | .leaf _ :: rest => connectionSlots rest
  | .pageInfo _ _ :: rest => connectionSlots rest

def edgeSlots : List EdgeField → List Slot
  | [] => []
  | .leaf leaf :: rest =>
      (if leaf.name = cursorName ∨ leaf.name = Graphql.typenameName then []
        else [(leaf.key, IsFlat)]) ++ edgeSlots rest
  | .node key _ fields :: rest =>
      (key, IsNode (HasSlots sure (nodeSlots fields))) :: edgeSlots rest

end

/-- The slots of the data of a mutation. -/
def responseSlots : List ResponseField → List Slot
  | [] => []
  | .nodes key selection :: rest =>
      (key, IsNode (HasSlots sure (nodeSlots sure selection.fields))) :: responseSlots rest
  | .leaf _ :: rest => responseSlots rest

/-- The slots of the map of a looked-up node of some type. -/
def variantSlots (selection : NodeSelection) : List Slot :=
  (resolvedTypeKey, (· = .text selection.typeName)) :: nodeSlots sure selection.fields

/-- A row of a mutation.  It may have a position, which is a number. -/
def IsResponseRow (fields : List ResponseField) (row : Value) : Prop :=
  HasSlots sure [("data", HasSlots sure (responseSlots sure fields))] row ∧
    ∃ entries, row = .object entries ∧
      ∀ value, Entries.get? entries "position" = some value → ∃ number : Int, value = .int number

/-- Rows from which a shape can be answered. -/
def Shape.Reads : Shape → Value → Prop
  | .rows => fun _ => True
  | .list selection => IsListOf (HasSlots sure
      [(rootName, IsNode (HasSlots sure (nodeSlots sure selection.fields)))])
  | .lookup variants => IsListOf (HasSlots sure
      [(rootName, fun raw => ∃ selection ∈ variants, HasSlots sure (variantSlots sure selection) raw)])
  | .response selection => IsListOf (IsResponseRow sure selection.fields)

end

mutual

/-- What the answer of a field of a node is. -/
def fieldAnswer : NodeField → Value → Prop
  | .leaf _ => IsFlat
  | .relationship _ _ _ fields => IsRelated (IsMapOf (nodeAnswers fields))
  | .connection _ _ _ _ fields => IsMapOf (connectionAnswers fields)

/-- The slots of the answer of a node. -/
def nodeAnswers : List NodeField → List Slot
  | [] => []
  | field :: rest => (field.key, fieldAnswer field) :: nodeAnswers rest

/-- The slots of the answer of a connection. -/
def connectionAnswers : List ConnectionField → List Slot
  | [] => []
  | .leaf leaf :: rest => (leaf.key, IsFlat) :: connectionAnswers rest
  | .edges key fields :: rest => (key, IsListOf (IsMapOf (edgeAnswers fields))) :: connectionAnswers rest
  | .pageInfo key leaves :: rest =>
      (key, IsMapOf (leaves.map fun leaf => (leaf.key, IsFlat))) :: connectionAnswers rest

/-- The slots of the answer of an edge. -/
def edgeAnswers : List EdgeField → List Slot
  | [] => []
  | .leaf leaf :: rest => (leaf.key, IsFlat) :: edgeAnswers rest
  | .node key _ fields :: rest => (key, IsNode (IsMapOf (nodeAnswers fields))) :: edgeAnswers rest

end

/-- What the answer of a field of a mutation is. -/
def responseAnswer : ResponseField → Value → Prop
  | .leaf _ => IsFlat
  | .nodes _ selection => IsListOf (IsNode (IsMapOf (nodeAnswers selection.fields)))

/-- What is answered in a shape.  Every map in it has the keys of the fields selected there, in the
order of the selection, and where no fields are selected there is no map. -/
def Shape.Answers : Shape → Value → Prop
  | .rows => fun _ => True
  | .list selection => IsListOf (IsNode (IsMapOf (nodeAnswers selection.fields)))
  | .lookup variants =>
      IsNode fun value => ∃ selection ∈ variants, IsMapOf (nodeAnswers selection.fields) value
  | .response selection =>
      IsMapOf (selection.fields.map fun field => (field.key, responseAnswer field))

section

variable {sure : Prop} {slots others : List Slot} {raw value : Value}

theorem isFlat_text (content : String) : IsFlat (.text content) := fun _ same => nomatch same

theorem isFlat_bool (flag : Bool) : IsFlat (.bool flag) := fun _ same => nomatch same

theorem isFlat_textOrNull (content : Option String) : IsFlat (.textOrNull content) := by
  cases content <;> exact fun _ same => nomatch same

/-- Where nothing is sure a value that is no map stands for one with any slots. -/
theorem HasSlots.of_flat (flat : IsFlat raw) (unsure : ¬ sure) : HasSlots sure slots raw := by
  cases raw with
  | object entries => exact absurd rfl (flat entries)
  | _ => exact unsure

theorem HasSlots.get? {entries : Entries Value} {key : String} {good : Value → Prop}
    (has : HasSlots sure slots (.object entries)) (member : (key, good) ∈ slots) :
    ∃ value, Entries.get? entries key = some value ∧ good value :=
  has _ member

theorem HasSlots.mono (has : HasSlots sure slots raw) (fewer : others ⊆ slots) :
    HasSlots sure others raw := by
  cases raw with
  | object entries => exact fun slot member => has slot (fewer member)
  | _ => exact has

theorem HasSlots.left (has : HasSlots sure (slots ++ others) raw) : HasSlots sure slots raw :=
  has.mono (List.subset_append_left slots others)

theorem HasSlots.right (has : HasSlots sure (slots ++ others) raw) : HasSlots sure others raw :=
  has.mono (List.subset_append_right slots others)

theorem HasSlots.tail {slot : Slot} (has : HasSlots sure (slot :: slots) raw) :
    HasSlots sure slots raw :=
  has.mono (List.subset_cons_self slot slots)

theorem nodeAnswers_keys (fields : List NodeField) :
    (nodeAnswers fields).map Prod.fst = fields.map NodeField.key := by
  induction fields with
  | nil => rfl
  | cons field rest ih => rw [nodeAnswers, List.map_cons, List.map_cons, ih]

theorem connectionAnswers_keys (fields : List ConnectionField) :
    (connectionAnswers fields).map Prod.fst = fields.map ConnectionField.key := by
  induction fields with
  | nil => rfl
  | cons field rest ih =>
      cases field <;> rw [connectionAnswers, List.map_cons, List.map_cons, ih] <;> rfl

theorem edgeAnswers_keys (fields : List EdgeField) :
    (edgeAnswers fields).map Prod.fst = fields.map EdgeField.key := by
  induction fields with
  | nil => rfl
  | cons field rest ih => cases field <;> rw [edgeAnswers, List.map_cons, List.map_cons, ih] <;> rfl

/-- Slots of a node stand under the keys of the fields that are answered from its map. -/
theorem nodeSlots_keys (sure : Prop) (fields : List NodeField) :
    (nodeSlots sure fields).map Prod.fst = (fields.filter isProjected).map NodeField.key := by
  induction fields with
  | nil => rfl
  | cons field rest ih =>
      rw [nodeSlots, List.map_append, ih, List.filter_cons]
      cases field with
      | leaf leaf => by_cases named : leaf.name = Graphql.typenameName <;>
          simp [fieldSlots, isProjected, NodeField.key, named]
      | relationship => rfl
      | connection => rfl

theorem nodeSlots_nodup (sure : Prop) {fields : List NodeField}
    (distinct : (fields.map NodeField.key).Nodup) :
    ((nodeSlots sure fields).map Prod.fst).Nodup := by
  rw [nodeSlots_keys]
  exact distinct.sublist (List.filter_sublist.map _)

theorem connectionSlots_keys (sure : Prop) (fields : List ConnectionField) :
    ((connectionSlots sure fields).map Prod.fst).Sublist (fields.map ConnectionField.key) ∧
      ∀ key ∈ (connectionSlots sure fields).map Prod.fst, ∃ inner, .edges key inner ∈ fields := by
  induction fields with
  | nil => exact ⟨.slnil, by simp [connectionSlots]⟩
  | cons field rest ih =>
      obtain ⟨kept, members⟩ := ih
      have later : ∀ key ∈ (connectionSlots sure rest).map Prod.fst,
          ∃ inner, .edges key inner ∈ field :: rest := fun key member =>
        (members key member).imp fun _ => List.mem_cons_of_mem field
      cases field with
      | edges key fields =>
          refine ⟨kept.cons_cons key, fun other member => ?_⟩
          rcases List.mem_cons.mp member with rfl | member
          · exact ⟨fields, List.mem_cons_self ..⟩
          · exact later other member
      | leaf leaf => exact ⟨kept.cons _, later⟩
      | pageInfo key leaves => exact ⟨kept.cons _, later⟩

theorem edgeSlots_keys (sure : Prop) (fields : List EdgeField) :
    ((edgeSlots sure fields).map Prod.fst).Sublist (fields.map EdgeField.key) := by
  induction fields with
  | nil => exact .slnil
  | cons field rest ih =>
      cases field with
      | leaf leaf =>
          rw [edgeSlots]
          split
          · exact ih.cons _
          · exact ih.cons_cons _
      | node key typeName fields => exact ih.cons_cons _

theorem responseSlots_keys (sure : Prop) (fields : List ResponseField) :
    ((responseSlots sure fields).map Prod.fst).Sublist (fields.map ResponseField.key) := by
  induction fields with
  | nil => exact .slnil
  | cons field rest ih =>
      cases field with
      | leaf leaf => exact ih.cons _
      | nodes key selection => exact ih.cons_cons _

end

end GraphGateway.Statement
