import Mathlib.Data.String.Basic
import GraphGateway.Proofs.Statement.Asked
import GraphGateway.Proofs.Value.Order

/-!
Refused inputs.  An input of the shape that the types of the inputs give is planned or refused as a
wrong one; planning fails in no other way before the answer is planned.  A mutation that asks for a
write that is not lawful is thus refused, and there is no statement of it.
-/
namespace GraphGateway.Statement

open Request Schema

/-- A failure that says what is wrong with an input. -/
def IsRefusal (failure : Failure) : Prop :=
  ∃ fault, failure = .fault fault ∧
    (fault.kind = "MissingRequiredPropertyError" ∨ fault.kind = "InvalidInputError")

/-- A failure that says what is wrong with an input, and that a relationship lacks what it requires
only where something is not lawful. -/
def IsRefusalOf (lawful : Prop) (failure : Failure) : Prop :=
  ∃ fault, failure = .fault fault ∧
    (fault.kind = "InvalidInputError" ∨ fault.kind = "MissingRequiredPropertyError" ∧ ¬ lawful)

theorem IsRefusalOf.isRefusal {lawful : Prop} {failure : Failure}
    (refusal : IsRefusalOf lawful failure) : IsRefusal failure := by
  obtain ⟨fault, same, invalid | ⟨missing, -⟩⟩ := refusal
  · exact ⟨fault, same, .inr invalid⟩
  · exact ⟨fault, same, .inl missing⟩

/-- A result that is there unless it is refused. -/
abbrev Refuses {α : Type} (lawful : Prop) (result : Except Failure α) : Prop :=
  Outcome.Only (IsRefusalOf lawful) result

namespace Refuses

variable {α : Type} {lawful other : Prop}

theorem invalid (reason path : String) :
    Refuses lawful (Failure.invalid reason path : Except _ α) := by
  intro failure same
  cases same
  exact ⟨_, rfl, .inl rfl⟩

theorem imp {result : Except Failure α} (refuses : Refuses lawful result) (step : other → lawful) :
    Refuses other result := by
  refine refuses.weaken fun failure => ?_
  rintro ⟨fault, same, invalid | ⟨missing, broken⟩⟩
  · exact ⟨fault, same, .inl invalid⟩
  · exact ⟨fault, same, .inr ⟨missing, broken ∘ step⟩⟩

end Refuses

/-- An object, or null where none is given. -/
inductive IsEntries : Value → Prop where
  | null : IsEntries .null
  | object (entries : Entries Value) : IsEntries (.object entries)

/-- A list, or null where none is given. -/
inductive IsItems : Value → Prop where
  | null : IsItems .null
  | list (items : List Value) : IsItems (.list items)

/-- An entry with a filter and properties. -/
inductive IsMatch : Value → Prop where
  | mk {entries : Entries Value} (filter : IsEntries ((entries.get? "where").getD .null))
      (properties : IsEntries ((entries.get? "properties").getD .null)) :
      IsMatch (.object entries)

mutual

/-- The shape of the input for a new node. -/
inductive NodeShaped (model : Model) : NodeType → Value → Prop where
  | mk {node : NodeType} {entries : Entries Value}
      (fields : ∀ relationship ∈ node.relationships, ∀ input,
        entries.get? relationship.name = some input → FieldShaped model relationship input) :
      NodeShaped model node (.object entries)

/-- The shape of the input for a relationship of a node. -/
inductive FieldShaped (model : Model) : Relationship → Value → Prop where
  | null {relationship : Relationship} : FieldShaped model relationship .null
  | mk {relationship : Relationship} {entries : Entries Value}
      (listed : ∀ key ∈ [createKey, connectKey], ∀ value, entries.get? key = some value →
        IsItems value)
      (created : ∀ items, entries.get? createKey = some (.list items) → ∀ item ∈ items,
        CreateShaped model relationship item)
      (connected : ∀ items, entries.get? connectKey = some (.list items) → ∀ item ∈ items,
        IsMatch item) :
      FieldShaped model relationship (.object entries)

/-- The shape of the input for a relationship to a new node. -/
inductive CreateShaped (model : Model) : Relationship → Value → Prop where
  | mk {relationship : Relationship} {entries : Entries Value}
      (properties : IsEntries ((entries.get? "properties").getD .null))
      (node : ∀ related, model.related relationship = .ok related → ∀ input,
        entries.get? "node" = some input → input ≠ .null → NodeShaped model related input) :
      CreateShaped model relationship (.object entries)

end

/-- The shape of a mutation. -/
inductive Shaped (model : Model) : RootField → Prop where
  | create {key typeName : String} {inputs : List Value} {response : ResponseSelection}
      (each : ∀ node, model.node typeName = .ok node → ∀ input ∈ inputs,
        NodeShaped model node input) : Shaped model (.create key typeName inputs response)
  | update {key typeName : String} {response : ResponseSelection}
      {filter assignments connections : Value} (condition : IsEntries filter)
      (given : IsEntries assignments) (taken : IsEntries connections)
      (fields : ∀ node, model.node typeName = .ok node → ∀ entries : Entries Value,
        assignments = .object entries → ∀ relationship ∈ node.relationships, ∀ input,
          entries.get? relationship.name = some input → FieldShaped model relationship input)
      (listed : ∀ entries, connections = .object entries → ∀ name value, (name, value) ∈ entries →
        IsItems value)
      (matches_ : ∀ entries, connections = .object entries → ∀ name items,
        (name, Value.list items) ∈ entries → ∀ item ∈ items, IsMatch item) :
      Shaped model (.update key typeName response filter assignments connections)

section

open Refuses

variable {lawful : Prop}

theorem checkKeys_refuses (node : NodeType) (path : String) (creating : Bool)
    (entries : List (String × Value)) : Refuses lawful (checkKeys node path creating entries) := by
  induction entries with
  | nil => exact .ok _
  | cons entry rest ih =>
      obtain ⟨name, value⟩ := entry
      rw [checkKeys]
      split
      · exact ih
      · split
        · split
          · exact ih
          · exact .bind (invalid _ _) fun _ _ => ih
        · split
          · exact .bind (invalid _ _) fun _ _ => ih
          · split
            · exact .bind (invalid _ _) fun _ _ => ih
            · exact ih

theorem checkRequired_refuses (node : NodeType) (path : String) (entries : Entries Value) :
    Refuses lawful (checkRequired node path entries) := by
  unfold checkRequired
  split
  · exact invalid _ _
  · exact .ok _

theorem mem_of_mem_distinctItems {items : List Value} {item : Value}
    (member : item ∈ Value.distinctItems items) : item ∈ items := by
  have grown : ∀ kept : List Value,
      item ∈ items.foldl (fun kept item => if kept.any (·.same item) then kept else kept ++ [item])
        kept → item ∈ kept ∨ item ∈ items := by
    clear member
    induction items with
    | nil => exact fun kept inside => .inl inside
    | cons first rest ih =>
        intro kept inside
        rw [List.foldl_cons] at inside
        rcases ih _ inside with here | later
        · split at here
          · exact .inl here
          · rcases List.mem_append.mp here with old | new
            · exact .inl old
            · exact .inr (List.mem_cons.mpr (.inl (List.mem_singleton.mp new)))
        · exact .inr (List.mem_cons_of_mem _ later)
  exact (grown [] member).resolve_left List.not_mem_nil

/-- The content of a text. -/
def contentOf : Value → String
  | .text content => content
  | _ => ""

/-- Unknown keys can be sorted, and are refused. -/
theorem checkFieldKeys_refuses (path : String) (keys : List String) :
    Refuses lawful (checkFieldKeys path (keys.map .text)) := by
  unfold checkFieldKeys
  rw [if_neg (by simp [Value.isKey])]
  dsimp only
  split
  · exact .ok _
  · have ranked : Value.Ranked contentOf
        (((Value.distinctItems (keys.map .text)).filter fun key =>
          !key.same (.text createKey) && !key.same (.text connectKey)).map fun key => (key, ())) := by
      intro first firstMember second secondMember
      obtain ⟨key, among, rfl⟩ := List.mem_map.mp firstMember
      obtain ⟨other, amongToo, rfl⟩ := List.mem_map.mp secondMember
      obtain ⟨name, -, rfl⟩ := List.mem_map.mp
        (mem_of_mem_distinctItems (List.mem_filter.mp among).1)
      obtain ⟨label, -, rfl⟩ := List.mem_map.mp
        (mem_of_mem_distinctItems (List.mem_filter.mp amongToo).1)
      rfl
    obtain ⟨sorted, done, -⟩ := Value.sortBy?_spec ranked
    rw [done]
    exact invalid _ _

theorem readFilter_refuses {node : NodeType} {filter : Value} {path : String}
    (shaped : IsEntries filter) : Refuses lawful (readFilter node filter path) := by
  cases shaped with
  | null => exact .ok _
  | object entries =>
      unfold readFilter
      dsimp only
      split
      · exact .ok _
      · intro failure same
        cases same
        exact ⟨_, rfl, .inl rfl⟩

theorem relationshipAssignments_refuses (type : PropertiesType) (path : String) (creating : Bool)
    (entries : Entries Value) :
    Refuses (creating = true → missingProperty? type entries = none)
      (relationshipAssignments type path creating entries) := by
  unfold relationshipAssignments
  split
  · exact invalid _ _
  · dsimp only
    split
    · next creates =>
      split
      · next field missing =>
        intro failure same
        cases same
        refine ⟨_, rfl, .inr ⟨rfl, fun none_ => ?_⟩⟩
        rw [missing] at none_
        cases none_ creates
      · exact .ok _
    · split
      · exact invalid _ _
      · exact .ok _

section

variable {basis : Basis}

/-- A relationship that is created lawfully lacks nothing. -/
theorem missingProperty?_of_lawful {model : Model} {relationship : Relationship}
    {type : PropertiesType} (found : model.propertiesOf? relationship = some type)
    {entries : Entries Value}
    (lawful : Write.IsLawful model ⟨.relationship relationship, true, entries⟩) :
    missingProperty? type entries = none := by
  refine List.find?_eq_none.mpr fun field member => ?_
  have required : field ∈ (Place.relationship relationship).required model := by
    simpa [Place.required, found] using member
  have given : isGiven entries field.name = true := isGiven_iff.mpr (lawful field required)
  simp [given]

theorem planProperties_refuses {relationship : Relationship} {given : Value} {path : String}
    {creating : Bool} (shaped : IsEntries given) :
    Refuses (creating = true → Write.IsLawful basis.model
        ⟨.relationship relationship, true, (entriesOf? given).getD []⟩)
      (basis.planProperties relationship given path creating) := by
  unfold Basis.planProperties
  cases found : basis.model.offeredProperties? basis.features.relationshipProperties
      relationship with
  | none =>
      dsimp only
      split
      · exact .ok _
      · exact invalid _ _
  | some type =>
      have known : basis.model.propertiesOf? relationship = some type := by
        unfold Model.offeredProperties? at found
        split at found
        · exact found
        · cases found
      cases shaped with
      | null =>
          exact (relationshipAssignments_refuses type path creating []).imp
            fun lawful creates => missingProperty?_of_lawful known (lawful creates)
      | object entries =>
          exact (relationshipAssignments_refuses type path creating entries).imp
            fun lawful creates => missingProperty?_of_lawful known (lawful creates)

theorem related_refuses {relationship : Relationship} {related : NodeType}
    (found : basis.model.related relationship = .ok related) :
    Refuses lawful (Failure.ofLookup (basis.model.related relationship)) := by
  rw [found]
  exact .ok _

theorem planConnect_refuses {relationship : Relationship} {related : NodeType} {path : String}
    {entry : Value} (found : basis.model.related relationship = .ok related)
    (shaped : IsMatch entry) :
    Refuses (∀ entries, entry = .object entries → Write.IsLawful basis.model
        ⟨.relationship relationship, true, propertiesGiven entries⟩)
      (basis.planConnect relationship path entry) := by
  obtain ⟨filter, properties⟩ := shaped
  unfold Basis.planConnect
  refine .bind (.ok _) fun entries same => ?_
  cases same
  refine .bind (related_refuses found) fun _ _ => ?_
  refine .bind ((planProperties_refuses properties).imp fun lawful _ => lawful _ rfl) fun _ _ => ?_
  dsimp only
  split
  · exact invalid _ _
  · exact .bind (readFilter_refuses filter) fun _ _ => .ok _

theorem planConnectionUpdate_refuses {relationship : Relationship} {related : NodeType}
    {path : String} {entry : Value} (found : basis.model.related relationship = .ok related)
    (shaped : IsMatch entry) :
    Refuses lawful (basis.planConnectionUpdate relationship path entry) := by
  obtain @⟨entries, filter, properties⟩ := shaped
  unfold Basis.planConnectionUpdate
  refine .bind (.ok entries) fun others same => ?_
  cases same
  refine .bind (related_refuses found) fun _ _ => ?_
  dsimp only
  split
  · exact invalid _ _
  · have taken : IsEntries (orEmpty (entries.get? "properties")) := by
      unfold orEmpty
      cases given : entries.get? "properties" with
      | none => exact .object []
      | some value =>
          rw [given] at properties
          dsimp only
          split
          · exact properties
          · exact .object []
    refine .bind ((planProperties_refuses taken).imp fun _ => nofun) fun _ _ => ?_
    exact .bind (readFilter_refuses filter) fun _ _ => .ok _

theorem planEach_refuses {α : Type} {path key : String} {plan : String → Value → Except Failure α}
    {items : List Value} (each : ∀ item ∈ items, ∀ path, Refuses lawful (plan path item)) :
    Refuses lawful (Basis.planEach path key plan items) := by
  refine .mapM fun ⟨item, index⟩ member => ?_
  exact each item ((List.mem_zipIdx' member).2 ▸ List.getElem_mem _) _

theorem planConnections_refuses {relationship : Relationship} {related : NodeType} {path : String}
    {entries : Entries Value} (found : basis.model.related relationship = .ok related)
    (listed : ∀ value, entries.get? connectKey = some value → IsItems value)
    (connected : ∀ items, entries.get? connectKey = some (.list items) → ∀ item ∈ items,
      IsMatch item) :
    Refuses (∀ items item, entries.get? connectKey = some (.list items) → .object item ∈ items →
        Write.IsLawful basis.model ⟨.relationship relationship, true, propertiesGiven item⟩)
      (basis.planConnections relationship path entries) := by
  unfold Basis.planConnections
  cases given : entries.get? connectKey with
  | none => exact .ok _
  | some value =>
      cases listed value given with
      | null => exact .ok _
      | list items =>
          refine .bind (itemsOf_list items ▸ .ok _) fun others same => ?_
          rw [itemsOf_list] at same
          cases same
          refine planEach_refuses fun item member _ => ?_
          exact (planConnect_refuses found (connected items given item member)).imp
            fun lawful entries same => lawful items entries rfl (same ▸ member)

mutual

/-- The input for a new node is planned or refused. -/
theorem planNode_refuses (linked : basis.model.FindsRelated) {node : NodeType} {input : Value}
    {path : String} (known : node ∈ basis.model.nodes)
    (shaped : NodeShaped basis.model node input) :
    Refuses (∀ write, NodeAsks basis.model node input write → write.IsLawful basis.model)
      (basis.planNode node path input) := by
  cases shaped with
  | @mk _ entries fields =>
      rw [planNode_object]
      refine .bind (checkKeys_refuses node path true _) fun _ _ => ?_
      refine .bind (checkRequired_refuses node path _) fun _ _ => ?_
      refine .bind ?_ fun _ _ => .ok _
      rw [planEntries_eq]
      refine .map _ (.mapM fun relationship member => ?_)
      unfold Basis.planRelationship
      cases found : entries.get? relationship.name with
      | none => exact .ok _
      | some input =>
          obtain ⟨related, there⟩ := linked node known relationship member
          exact (planFieldInput_refuses linked there
            (fields relationship member input found)).imp
              fun lawful write asks => lawful write (.nested member found asks)
  termination_by sizeOf input
  decreasing_by
    subst_vars
    exact sizeOf_get?_lt found

theorem planFieldInput_refuses (linked : basis.model.FindsRelated) {relationship : Relationship}
    {related : NodeType} {input : Value} {path : String}
    (there : basis.model.related relationship = .ok related)
    (shaped : FieldShaped basis.model relationship input) :
    Refuses (∀ write, FieldAsks basis.model relationship input write →
        write.IsLawful basis.model)
      (basis.planFieldInput relationship path input) := by
  cases shaped with
  | null =>
      rw [Basis.planFieldInput]
      exact .ok _
  | @mk _ entries listed created connected =>
      rw [planFieldInput_object]
      refine .bind (checkFieldKeys_refuses path _) fun _ _ => ?_
      refine .bind ?_ fun _ _ => .bind ((planConnections_refuses there
        (listed connectKey (by simp)) connected).imp fun lawful items item found member =>
          lawful _ (.connected found member)) fun _ _ => .ok _
      cases found : entries.get? createKey with
      | none =>
          unfold Basis.planCreations
          rw [found]
          exact .ok _
      | some value =>
          cases listed createKey (by simp) value found with
          | null =>
              unfold Basis.planCreations
              rw [found]
              exact .ok _
          | list items =>
              rw [creations_of_list found]
              refine planEach_refuses fun item member path => ?_
              exact (planCreate_refuses linked there (created items found item member)).imp
                fun lawful write asks => lawful write (.created found member asks)
  termination_by sizeOf input
  decreasing_by
    subst_vars
    have outer := sizeOf_get?_lt found
    have inner := List.sizeOf_lt_of_mem member
    simp only [Value.list.sizeOf_spec] at outer
    omega

theorem planCreate_refuses (linked : basis.model.FindsRelated) {relationship : Relationship}
    {related : NodeType} {input : Value} {path : String}
    (there : basis.model.related relationship = .ok related)
    (shaped : CreateShaped basis.model relationship input) :
    Refuses (∀ write, CreateAsks basis.model relationship input write →
        write.IsLawful basis.model)
      (basis.planCreate relationship path input) := by
  cases shaped with
  | @mk _ entries properties node =>
      rw [planCreate_object]
      refine .bind (related_refuses there) fun target same => ?_
      rw [there] at same
      cases same
      refine .bind ((planProperties_refuses properties).imp fun lawful _ => lawful _ .edge)
        fun _ _ => ?_
      cases found : entries.get? "node" with
      | none => exact invalid _ _
      | some input =>
          by_cases given : input = .null
          · rw [given]
            exact invalid _ _
          · have only : Refuses (∀ write, CreateAsks basis.model relationship (.object entries)
                write → write.IsLawful basis.model)
                (basis.planNode related s!"{path}.node" input) :=
              (planNode_refuses linked (Model.node_mem there)
                (node related there input found given)).imp
                  fun lawful write asks => lawful write (.node there found asks)
            cases input with
            | null => exact absurd rfl given
            | _ => exact .bind only fun _ _ => .ok _
  termination_by sizeOf input
  decreasing_by
    subst_vars
    exact sizeOf_get?_lt found

end

theorem IsEntries.read {value : Value} (shaped : IsEntries value) :
    ∃ entries, objectEntries (orEmpty (some value)) = .ok entries ∧
      (entries = [] ∨ value = .object entries) := by
  cases shaped with
  | null => exact ⟨[], rfl, .inl rfl⟩
  | object entries => exact ⟨entries, objectEntries_orEmpty_ok_iff.mpr rfl, .inr rfl⟩

theorem planConnectionUpdates_refuses (linked : basis.model.FindsRelated) {node : NodeType}
    {path : String} {entries : List (String × Value)} (known : node ∈ basis.model.nodes)
    (listed : ∀ name value, (name, value) ∈ entries → IsItems value)
    (matches_ : ∀ name items, (name, Value.list items) ∈ entries → ∀ item ∈ items, IsMatch item) :
    Refuses lawful (basis.planConnectionUpdates node path entries) := by
  induction entries with
  | nil => exact .ok _
  | cons entry rest ih =>
      obtain ⟨name, value⟩ := entry
      unfold Basis.planConnectionUpdates
      refine .bind ?_ fun relationship allowed => ?_
      · unfold Basis.updatableRelationship
        split
        · exact invalid _ _
        · split
          · exact invalid _ _
          · split
            · exact .ok _
            · exact invalid _ _
      · have member := List.mem_of_find?_eq_some (updatableRelationship_ok allowed)
        obtain ⟨related, there⟩ := linked node known relationship member
        have others := ih (fun name value inside => listed name value (List.mem_cons_of_mem _ inside))
          fun name items inside => matches_ name items (List.mem_cons_of_mem _ inside)
        cases listed name value (List.mem_cons_self ..) with
        | null =>
            refine .bind (.ok []) fun items same => ?_
            cases same
            exact .bind (.ok []) fun _ _ => .bind others fun _ _ => .ok _
        | list items =>
            refine .bind (itemsOf_list items ▸ .ok _) fun taken same => ?_
            rw [itemsOf_list] at same
            cases same
            refine .bind (planEach_refuses fun item inside _ => ?_) fun _ _ =>
              .bind others fun _ _ => .ok _
            exact planConnectionUpdate_refuses there
              (matches_ name items (List.mem_cons_self ..) item inside)

/-- A mutation whose answer has nothing in it. -/
def unanswered : RootField → RootField
  | .create key typeName inputs response =>
      .create key typeName inputs { response with fields := [] }
  | .update key typeName response filter assignments connections =>
      .update key typeName { response with fields := [] } filter assignments connections
  | field => field

theorem Asks.unanswered {model : Model} {field : RootField} {write : Write}
    (asks : Asks model field write) : Asks model (unanswered field) write := by
  cases asks with
  | create resolved member asks => exact .create resolved member asks
  | update resolved read => exact .update resolved read
  | nested resolved read member found asks => exact .nested resolved read member found asks
  | connection resolved read member known inside =>
      exact .connection resolved read member known inside

theorem bind_error_of {α β : Type} {result : Except Failure α} {next later : α → Except Failure β}
    {failure : Failure} (failed : (result >>= next) = .error failure)
    (same : ∀ value, next value = .error failure → later value = .error failure) :
    (result >>= later) = .error failure := by
  rcases Outcome.bind_error_iff.mp failed with here | ⟨value, done, rest⟩
  · exact Outcome.bind_error_iff.mpr (.inl here)
  · exact Outcome.bind_error_iff.mpr (.inr ⟨value, done, same value rest⟩)

/-- The answer is planned last, so that it hides no failure. -/
theorem plan_error_of_unanswered {field : RootField} {failure : Failure}
    (failed : basis.plan (unanswered field) = .error failure) :
    basis.plan field = .error failure := by
  cases field with
  | create key typeName inputs response =>
      refine bind_error_of failed fun node failed => ?_
      refine bind_error_of failed fun nodes failed => ?_
      cases failed
  | update key typeName response filter assignments connections =>
      refine bind_error_of failed fun node failed => ?_
      refine bind_error_of failed fun filter failed => ?_
      refine bind_error_of failed fun entries failed => ?_
      refine bind_error_of failed fun _ failed => ?_
      refine bind_error_of failed fun nested failed => ?_
      refine bind_error_of failed fun given failed => ?_
      refine bind_error_of failed fun updates failed => ?_
      cases failed
  | _ => exact failed

/-- Whether a mutation is one of a node type that is there. -/
def Mutates (model : Model) : RootField → Prop
  | .create _ typeName _ _ => ∃ node, model.node typeName = .ok node
  | .update _ typeName _ _ _ _ => ∃ node, model.node typeName = .ok node
  | _ => False

theorem Asks.mutates {model : Model} {field : RootField} {write : Write}
    (asks : Asks model field write) : Mutates model field := by
  cases asks with
  | create resolved => exact ⟨_, resolved⟩
  | update resolved => exact ⟨_, resolved⟩
  | nested resolved => exact ⟨_, resolved⟩
  | connection resolved => exact ⟨_, resolved⟩

/-- The entries of a node are planned or refused, each relationship for itself. -/
theorem planEntries_refuses (linked : basis.model.FindsRelated) {node : NodeType} {path : String}
    {entries : Entries Value} (known : node ∈ basis.model.nodes)
    (fields : ∀ relationship ∈ node.relationships, ∀ input,
      entries.get? relationship.name = some input → FieldShaped basis.model relationship input) :
    Refuses (∀ relationship ∈ node.relationships, ∀ input,
        entries.get? relationship.name = some input → ∀ write,
          FieldAsks basis.model relationship input write → write.IsLawful basis.model)
      (basis.planEntries node path entries) := by
  rw [planEntries_eq]
  refine .map _ (.mapM fun relationship member => ?_)
  unfold Basis.planRelationship
  cases found : entries.get? relationship.name with
  | none => exact .ok _
  | some input =>
      obtain ⟨related, there⟩ := linked node known relationship member
      exact (planFieldInput_refuses linked there (fields relationship member input found)).imp
        fun lawful => lawful relationship member input found

/-- A mutation without an answer is planned or refused. -/
theorem plan_unanswered_refuses (linked : basis.model.FindsRelated) {field : RootField}
    (shaped : Shaped basis.model field) (mutates : Mutates basis.model field) :
    Refuses (∀ write, Asks basis.model field write → write.IsLawful basis.model)
      (basis.plan (unanswered field)) := by
  cases shaped with
  | @create key typeName inputs response each =>
      obtain ⟨node, resolved⟩ := mutates
      unfold unanswered Basis.plan
      refine .bind ?_ fun found same => ?_
      · rw [resolved]
        exact .ok _
      · rw [Failure.ofLookup, Outcome.mapError_ok_iff, resolved] at same
        cases same
        refine .bind (.mapM fun entry member => ?_) fun _ _ => .ok _
        obtain ⟨input, index⟩ := entry
        have inside : input ∈ inputs := (List.mem_zipIdx' member).2 ▸ List.getElem_mem _
        exact (planNode_refuses linked (Model.node_mem resolved)
          (each node resolved input inside)).imp
            fun lawful write asks => lawful write (.create resolved inside asks)
  | @update key typeName response filter assignments connections condition given taken fields listed
      matches_ =>
      obtain ⟨node, resolved⟩ := mutates
      have known := Model.node_mem resolved
      unfold unanswered Basis.plan
      refine .bind ?_ fun found same => ?_
      · rw [resolved]
        exact .ok _
      · rw [Failure.ofLookup, Outcome.mapError_ok_iff, resolved] at same
        cases same
        refine .bind (readFilter_refuses condition) fun _ _ => ?_
        obtain ⟨entries, read, origin⟩ := given.read
        obtain ⟨changes, taken, source⟩ := taken.read
        rw [read, taken]
        refine .bind (.ok _) fun _ same => ?_
        cases same
        refine .bind (checkKeys_refuses node key false entries) fun _ _ => ?_
        refine .bind ?_ fun _ _ => .bind (.ok _) fun _ same => ?_
        · rcases origin with rfl | whole
          · exact (planEntries_refuses linked known fun _ _ _ none_ => by cases none_).imp
              fun _ _ _ _ none_ => by cases none_
          · have read : entriesOf? assignments = some entries := by rw [whole]; rfl
            exact (planEntries_refuses linked known (fields node resolved entries whole)).imp
              fun lawful relationship member input found write asks =>
                lawful write (.nested resolved read member found asks)
        · cases same
          refine .bind ?_ fun _ _ => .ok _
          rcases source with rfl | whole
          · exact .ok _
          · exact planConnectionUpdates_refuses linked known (listed changes whole)
              (matches_ changes whole)

/-- A mutation that asks for a write against the rules is refused. -/
theorem refused_of_not_lawful (sound : basis.model.IsSound)
    (offered : basis.features.relationshipProperties = true) {field : RootField} {write : Write}
    (shaped : Shaped basis.model field) (asks : Asks basis.model field write)
    (broken : ¬ write.IsLawful basis.model) :
    ∃ failure, basis.plan field = .error failure ∧ IsRefusal failure := by
  cases planned : basis.plan (unanswered field) with
  | ok plan => exact absurd (asks.unanswered.lawful sound offered planned) broken
  | error failure =>
      exact ⟨failure, plan_error_of_unanswered planned,
        (plan_unanswered_refuses sound.related shaped asks.mutates failure planned).isRefusal⟩

end

end

end GraphGateway.Statement
