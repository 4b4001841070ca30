import GraphGateway.Proofs.Schema.Sound
import GraphGateway.Proofs.Statement.WritePlan
import GraphGateway.Statement.Compiled

/-!
Writes that an input asks for.  A mutation asks to create a node for every input and for every entry
of a `create` list in it, to create a relationship for every entry of a `create` or a `connect`
list, and to update what its other arguments name, however deep these nest.  A write is lawful if it
leaves no required value null.  A mutation is only planned if all the writes that it asks for are
lawful.
-/
namespace GraphGateway.Statement

open Request Schema

/-- What a write is about. -/
inductive Place where
  | node (type : NodeType)
  | relationship (relationship : Relationship)

/-- The fields that are never null there. -/
def Place.required (model : Model) : Place → List PropertyField
  | .node type => type.fields.filter PropertyField.required
  | .relationship edge =>
      ((model.propertiesOf? edge).map PropertiesType.requiredFields).getD []

/-- A creation or an update, with the values that are given for it. -/
structure Write where
  place : Place
  creates : Bool
  given : Entries Value

/-- A creation has a value for every required field, and an update makes none of them null. -/
def Write.IsLawful (model : Model) (write : Write) : Prop :=
  ∀ field ∈ write.place.required model,
    if write.creates then ∃ value, write.given.get? field.name = some value ∧ value ≠ .null
    else (field.name, Value.null) ∉ write.given

/-- The properties that an entry gives to its relationship. -/
def propertiesGiven (entries : Entries Value) : Entries Value :=
  (entriesOf? ((entries.get? "properties").getD .null)).getD []

mutual

/-- The writes that the input for a new node asks for. -/
inductive NodeAsks (model : Model) : NodeType → Value → Write → Prop where
  | self {node : NodeType} {entries : Entries Value} :
      NodeAsks model node (.object entries) ⟨.node node, true, entries⟩
  | nested {node : NodeType} {entries : Entries Value} {relationship : Relationship}
      {input : Value} {write : Write} (member : relationship ∈ node.relationships)
      (found : entries.get? relationship.name = some input)
      (asks : FieldAsks model relationship input write) :
      NodeAsks model node (.object entries) write

/-- The writes that the input for a relationship of a node asks for. -/
inductive FieldAsks (model : Model) : Relationship → Value → Write → Prop where
  | created {relationship : Relationship} {entries : Entries Value} {items : List Value}
      {item : Value} {write : Write} (found : entries.get? createKey = some (.list items))
      (member : item ∈ items) (asks : CreateAsks model relationship item write) :
      FieldAsks model relationship (.object entries) write
  | connected {relationship : Relationship} {entries : Entries Value} {items : List Value}
      {item : Entries Value} (found : entries.get? connectKey = some (.list items))
      (member : Value.object item ∈ items) :
      FieldAsks model relationship (.object entries)
        ⟨.relationship relationship, true, propertiesGiven item⟩

/-- The writes that the input for a relationship to a new node asks for. -/
inductive CreateAsks (model : Model) : Relationship → Value → Write → Prop where
  | edge {relationship : Relationship} {entries : Entries Value} :
      CreateAsks model relationship (.object entries)
        ⟨.relationship relationship, true, propertiesGiven entries⟩
  | node {relationship : Relationship} {entries : Entries Value} {related : NodeType}
      {input : Value} {write : Write} (resolved : model.related relationship = .ok related)
      (found : entries.get? "node" = some input) (asks : NodeAsks model related input write) :
      CreateAsks model relationship (.object entries) write

end

/-- The writes that a root field asks for. -/
inductive Asks (model : Model) : RootField → Write → Prop where
  | create {key typeName : String} {inputs : List Value} {response : ResponseSelection}
      {node : NodeType} {input : Value} {write : Write}
      (resolved : model.node typeName = .ok node) (member : input ∈ inputs)
      (asks : NodeAsks model node input write) :
      Asks model (.create key typeName inputs response) write
  | update {key typeName : String} {response : ResponseSelection}
      {filter assignments connections : Value} {node : NodeType} {entries : Entries Value}
      (resolved : model.node typeName = .ok node) (read : entriesOf? assignments = some entries) :
      Asks model (.update key typeName response filter assignments connections)
        ⟨.node node, false, entries⟩
  | nested {key typeName : String} {response : ResponseSelection}
      {filter assignments connections : Value} {node : NodeType} {entries : Entries Value}
      {relationship : Relationship} {input : Value} {write : Write}
      (resolved : model.node typeName = .ok node) (read : entriesOf? assignments = some entries)
      (member : relationship ∈ node.relationships)
      (found : entries.get? relationship.name = some input)
      (asks : FieldAsks model relationship input write) :
      Asks model (.update key typeName response filter assignments connections) write
  | connection {key typeName : String} {response : ResponseSelection}
      {filter assignments connections : Value} {node : NodeType} {entries : Entries Value}
      {name : String} {items : List Value} {relationship : Relationship} {item : Entries Value}
      (resolved : model.node typeName = .ok node) (read : entriesOf? connections = some entries)
      (member : (name, Value.list items) ∈ entries)
      (known : node.relationship? name = some relationship)
      (inside : Value.object item ∈ items) :
      Asks model (.update key typeName response filter assignments connections)
        ⟨.relationship relationship, false, propertiesGiven item⟩

theorem isGiven_iff {entries : Entries Value} {key : String} :
    isGiven entries key = true ↔ ∃ value, entries.get? key = some value ∧ value ≠ .null := by
  unfold isGiven
  cases entries.get? key with
  | none => simp
  | some value => cases value <;> simp [Value.isNull]

/-- An input passes if it has every required property. -/
theorem checkRequired_ok_iff {node : NodeType} {path : String} {entries : Entries Value} :
    checkRequired node path entries = .ok () ↔
      ∀ field ∈ node.fields, field.required = true → isGiven entries field.name = true := by
  unfold checkRequired
  split
  · next field found =>
    have member := List.mem_of_find?_eq_some found
    have missing := List.find?_some found
    constructor
    · intro impossible
      cases impossible
    · intro complete
      rw [Bool.and_eq_true] at missing
      rw [complete field member missing.1] at missing
      cases missing.2
  · next found =>
    rw [List.find?_eq_none] at found
    constructor
    · intro _ field member needed
      have given := found field member
      rw [needed] at given
      simpa using given
    · intro _
      rfl

/-- Keys pass if each names a relationship, the identifier of a new node, or a property that an
update does not make null against its type. -/
theorem checkKeys_cons_ok_iff {node : NodeType} {path name : String} {creating : Bool}
    {value : Value} {rest : List (String × Value)} :
    checkKeys node path creating ((name, value) :: rest) = .ok () ↔
      ((node.relationship? name).isSome = true ∨
        if name = identifierName then creating = true
        else ∃ field, node.field? name = some field ∧
          (value.isNull && field.required && !creating) = false) ∧
      checkKeys node path creating rest = .ok () := by
  rw [checkKeys]
  split
  · next known => simp [known]
  · next unknown =>
    split
    · split <;> simp_all [Failure.invalid, bind, Except.bind]
    · split
      · simp_all [Failure.invalid, bind, Except.bind]
      · split <;> simp_all [Failure.invalid, bind, Except.bind]

/-- An update passes only if it makes no required property null. -/
theorem not_nulled_of_checkKeys {node : NodeType} {path : String} {entries : List (String × Value)}
    (checked : checkKeys node path false entries = .ok ()) {field : PropertyField}
    (found : node.field? field.name = some field) (needed : field.required = true)
    (other : field.name ≠ identifierName) (free : node.relationship? field.name = none) :
    (field.name, Value.null) ∉ entries := by
  induction entries with
  | nil => exact List.not_mem_nil
  | cons entry rest ih =>
      obtain ⟨name, value⟩ := entry
      obtain ⟨first, others⟩ := checkKeys_cons_ok_iff.mp checked
      intro member
      rcases List.mem_cons.mp member with here | later
      · cases here
        rw [free, if_neg other, found] at first
        simp [needed, Value.isNull] at first
      · exact ih others later

section

variable {basis : Basis} (sound : basis.model.IsSound)
  (offered : basis.features.relationshipProperties = true)

include offered in
/-- The properties that a planned relationship gets. -/
theorem planProperties_given {relationship : Relationship} {path : String} {creating : Bool}
    {given : Value} {accepted : List Assignment}
    (planned : basis.planProperties relationship given path creating = .ok accepted) :
    match basis.model.propertiesOf? relationship with
    | none => accepted = []
    | some type =>
        relationshipAssignments type path creating ((entriesOf? given).getD []) = .ok accepted := by
  rw [planProperties_ok_iff, Model.offeredProperties?, offered, if_pos rfl] at planned
  cases found : basis.model.propertiesOf? relationship with
  | none =>
      rw [found] at planned
      exact planned.2
  | some type =>
      rw [found] at planned
      obtain ⟨entries, read, assigned⟩ := planned
      rw [read]
      exact assigned

include sound offered in
/-- The relationship of an entry that is planned gets a lawful write. -/
theorem lawful_of_planProperties {relationship : Relationship} {path : String} {creating : Bool}
    {given : Value} {accepted : List Assignment}
    (planned : basis.planProperties relationship given path creating = .ok accepted) :
    Write.IsLawful basis.model
      ⟨.relationship relationship, creating, (entriesOf? given).getD []⟩ := by
  have assigned := planProperties_given offered planned
  intro field member
  dsimp only [Place.required] at member
  cases found : basis.model.propertiesOf? relationship with
  | none =>
      rw [found] at member
      cases member
  | some type =>
      rw [found] at member assigned
      obtain ⟨-, complete, unharmed, -⟩ := relationshipAssignments_ok_iff.mp assigned
      obtain ⟨inside, needed⟩ := List.mem_filter.mp member
      cases creating with
      | true =>
          have given := List.find?_eq_none.mp (complete rfl) field member
          exact isGiven_iff.mp (by simpa using given)
      | false =>
          intro nulled
          have found := sound.properties_field? (Model.properties_mem found) inside
          have kept := List.find?_eq_none.mp (Option.map_eq_none_iff.mp (unharmed rfl)) _ nulled
          simp [found, needed, Value.isNull] at kept

/-- A node that is planned gets a lawful write. -/
theorem lawful_of_checkRequired {node : NodeType} {path : String} {entries : Entries Value}
    (checked : checkRequired node path entries = .ok ()) :
    Write.IsLawful basis.model ⟨.node node, true, entries⟩ := by
  intro field member
  obtain ⟨inside, needed⟩ := List.mem_filter.mp member
  exact isGiven_iff.mp (checkRequired_ok_iff.mp checked field inside needed)

include sound in
theorem lawful_of_checkKeys {node : NodeType} {path : String} {entries : Entries Value}
    (known : node ∈ basis.model.nodes) (checked : checkKeys node path false entries = .ok ()) :
    Write.IsLawful basis.model ⟨.node node, false, entries⟩ := by
  intro field member
  obtain ⟨inside, needed⟩ := List.mem_filter.mp member
  obtain ⟨other, free, found⟩ := sound.node_field? known inside
  exact not_nulled_of_checkKeys checked found needed other free

end

/-- Every item of a list is planned, under a path of its own. -/
theorem planEach_of_mem {α : Type} {path key : String} {plan : String → Value → Except Failure α}
    {items : List Value} {plans : List α} (planned : Basis.planEach path key plan items = .ok plans)
    {item : Value} (member : item ∈ items) : ∃ path, ∃ made ∈ plans, plan path item = .ok made := by
  obtain ⟨index, inside, same⟩ := List.getElem_of_mem member
  have among : (item, index) ∈ items.zipIdx := by
    rw [List.mk_mem_zipIdx_iff_getElem?, ← same]
    exact List.getElem?_eq_getElem inside
  obtain ⟨made, here, done⟩ := Outcome.mapM_ok_of_mem planned among
  exact ⟨_, made, here, done⟩

/-- Every plan of a list is one of an item. -/
theorem planEach_of_mem_plans {α : Type} {path key : String}
    {plan : String → Value → Except Failure α} {items : List Value} {plans : List α}
    (planned : Basis.planEach path key plan items = .ok plans) {made : α} (member : made ∈ plans) :
    ∃ path, ∃ item ∈ items, plan path item = .ok made := by
  obtain ⟨⟨item, index⟩, among, done⟩ := Outcome.mapM_ok_of_mem_answers planned member
  exact ⟨_, item, (List.mem_zipIdx' among).2 ▸ List.getElem_mem _, done⟩

section

variable {basis : Basis}

theorem planEntries_of_mem {node : NodeType} {path : String} {entries : Entries Value}
    {nested : List EntryPlan} (planned : basis.planEntries node path entries = .ok nested)
    {relationship : Relationship} (member : relationship ∈ node.relationships) {input : Value}
    (found : entries.get? relationship.name = some input) :
    ∃ path made, basis.planFieldInput relationship path input = .ok made := by
  rw [planEntries_eq] at planned
  obtain ⟨lists, each, -⟩ := Outcome.map_ok_iff.mp planned
  obtain ⟨made, -, done⟩ := Outcome.mapM_ok_of_mem each member
  unfold Basis.planRelationship at done
  rw [found] at done
  exact ⟨_, made, done⟩

theorem planEntries_of_mem_plans {node : NodeType} {path : String} {entries : Entries Value}
    {nested : List EntryPlan} (planned : basis.planEntries node path entries = .ok nested)
    {plan : EntryPlan} (inside : plan ∈ nested) :
    ∃ relationship ∈ node.relationships, ∃ input, entries.get? relationship.name = some input ∧
      ∃ path made, basis.planFieldInput relationship path input = .ok made ∧ plan ∈ made := by
  rw [planEntries_eq] at planned
  obtain ⟨lists, each, rfl⟩ := Outcome.map_ok_iff.mp planned
  obtain ⟨made, among, member⟩ := List.mem_flatten.mp inside
  obtain ⟨relationship, known, done⟩ := Outcome.mapM_ok_of_mem_answers each among
  unfold Basis.planRelationship at done
  split at done
  · cases done
    cases member
  · next input found => exact ⟨relationship, known, input, found, _, made, done, member⟩

/-- Only a list has objects among its items. -/
theorem eq_list_of_itemsOf {value : Value} {items : List Value} {entries : Entries Value}
    (read : itemsOf value = .ok items) (member : Value.object entries ∈ items) :
    value = .list items := by
  cases value with
  | list others =>
      rw [itemsOf_list] at read
      cases read
      rfl
  | object others =>
      rw [itemsOf_object] at read
      cases read
      obtain ⟨key, -, impossible⟩ := List.mem_map.mp member
      cases impossible
  | null =>
      cases read
      cases member
  | _ =>
      obtain ⟨content, impossible⟩ := texts_of_isLeaf rfl read _ member
      cases impossible

/-- What a relationship gets is planned from an item of one of the two lists in its input. -/
theorem planFieldInput_of_mem_plans {relationship : Relationship} {input : Value} {path : String}
    {plans : List EntryPlan} (planned : basis.planFieldInput relationship path input = .ok plans)
    {plan : EntryPlan} (placed : plan ∈ plans) :
    ∃ (entries : Entries Value) (items : List Value), input = .object entries ∧
      ((entries.get? createKey = some (.list items) ∧
          ∃ path, ∃ item ∈ items, basis.planCreate relationship path item = .ok plan) ∨
        (entries.get? connectKey = some (.list items) ∧
          ∃ path, ∃ item ∈ items, basis.planConnect relationship path item = .ok plan)) := by
  rcases planFieldInput_ok_iff.mp planned with
    ⟨-, rfl⟩ | ⟨entries, created, joined, whole, -, creations, connections, rfl⟩
  · cases placed
  rcases List.mem_append.mp placed with new | old
  · cases found : entries.get? createKey with
    | none =>
        rw [creations_of_none found creations] at new
        cases new
    | some value =>
        by_cases listed : ∃ items, value = .list items
        · obtain ⟨items, rfl⟩ := listed
          rw [creations_of_list found] at creations
          exact ⟨entries, items, whole, .inl ⟨found, planEach_of_mem_plans creations new⟩⟩
        · rw [creations_of_flat found (fun items same => listed ⟨items, same⟩) creations] at new
          cases new
  · unfold Basis.planConnections at connections
    split at connections
    · cases connections
      cases old
    · next value found =>
      obtain ⟨items, read, each⟩ := Outcome.bind_ok_iff.mp connections
      obtain ⟨path, item, inside, done⟩ := planEach_of_mem_plans each old
      obtain ⟨others, _, _, _, rfl, -⟩ := (planConnect_ok_iff basis).mp done
      rw [eq_list_of_itemsOf read inside] at found
      exact ⟨entries, items, whole, .inr ⟨found, path, _, inside, done⟩⟩

/-- An item of a list in an object is smaller than the object. -/
theorem sizeOf_item_lt {entries : Entries Value} {key : String} {items : List Value}
    (listed : entries.get? key = some (.list items)) {item : Value} (inside : item ∈ items) :
    sizeOf item < sizeOf (Value.object entries) := by
  have outer := sizeOf_get?_lt listed
  have inner := List.sizeOf_lt_of_mem inside
  simp only [Value.list.sizeOf_spec] at outer
  omega

mutual

/-- All writes that the input of a planned node asks for are lawful. -/
theorem NodeAsks.lawful (sound : basis.model.IsSound)
    (offered : basis.features.relationshipProperties = true) {node : NodeType} {input : Value}
    {write : Write} {path : String} {plan : NodePlan} (asks : NodeAsks basis.model node input write)
    (planned : basis.planNode node path input = .ok plan) : write.IsLawful basis.model := by
  cases asks with
  | self =>
      obtain ⟨entries, -, same, -, complete, -⟩ := planNode_ok_iff.mp planned
      cases same
      exact lawful_of_checkRequired complete
  | nested member found asks =>
      obtain ⟨entries, inner, same, -, -, entered, -⟩ := planNode_ok_iff.mp planned
      cases same
      obtain ⟨path, made, done⟩ := planEntries_of_mem entered member found
      exact asks.lawful sound offered done
  termination_by sizeOf input
  decreasing_by
    subst_vars
    exact sizeOf_get?_lt found

theorem FieldAsks.lawful (sound : basis.model.IsSound)
    (offered : basis.features.relationshipProperties = true) {relationship : Relationship}
    {input : Value} {write : Write} {path : String} {plans : List EntryPlan}
    (asks : FieldAsks basis.model relationship input write)
    (planned : basis.planFieldInput relationship path input = .ok plans) :
    write.IsLawful basis.model := by
  cases asks with
  | created found member asks =>
      rw [planFieldInput_object] at planned
      obtain ⟨-, -, planned⟩ := Outcome.bind_ok_iff.mp planned
      obtain ⟨created, creations, -⟩ := Outcome.bind_ok_iff.mp planned
      rw [creations_of_list found] at creations
      obtain ⟨path, made, -, done⟩ := planEach_of_mem creations member
      exact asks.lawful sound offered done
  | connected found member =>
      rw [planFieldInput_object] at planned
      obtain ⟨-, -, planned⟩ := Outcome.bind_ok_iff.mp planned
      obtain ⟨created, -, planned⟩ := Outcome.bind_ok_iff.mp planned
      obtain ⟨joined, connections, -⟩ := Outcome.bind_ok_iff.mp planned
      unfold Basis.planConnections at connections
      rw [found] at connections
      obtain ⟨items, read, each⟩ := Outcome.bind_ok_iff.mp connections
      rw [itemsOf_list] at read
      cases read
      obtain ⟨path, made, -, done⟩ := planEach_of_mem each member
      obtain ⟨others, related, properties, filter, same, -, assigned, -⟩ :=
        (planConnect_ok_iff basis).mp done
      cases same
      exact lawful_of_planProperties sound offered assigned
  termination_by sizeOf input
  decreasing_by
    subst_vars
    have outer := sizeOf_get?_lt found
    have inner := List.sizeOf_lt_of_mem member
    simp only [Value.list.sizeOf_spec] at outer
    omega

theorem CreateAsks.lawful (sound : basis.model.IsSound)
    (offered : basis.features.relationshipProperties = true) {relationship : Relationship}
    {input : Value} {write : Write} {path : String} {plan : EntryPlan}
    (asks : CreateAsks basis.model relationship input write)
    (planned : basis.planCreate relationship path input = .ok plan) :
    write.IsLawful basis.model := by
  cases asks with
  | edge =>
      obtain ⟨entries, related, properties, inner, node, same, -, assigned, -⟩ :=
        planCreate_ok_iff.mp planned
      cases same
      exact lawful_of_planProperties sound offered assigned
  | node resolved given asks =>
      obtain ⟨entries, related, properties, inner, node, same, found, -, here, made, -⟩ :=
        planCreate_ok_iff.mp planned
      cases same
      rw [resolved] at found
      rw [given] at here
      cases found
      cases here
      exact asks.lawful sound offered made
  termination_by sizeOf input
  decreasing_by
    subst_vars
    exact sizeOf_get?_lt given

end

theorem updatableRelationship_ok {node : NodeType} {name path : String}
    {relationship : Relationship}
    (allowed : basis.updatableRelationship node name path = .ok relationship) :
    node.relationship? name = some relationship := by
  unfold Basis.updatableRelationship at allowed
  split at allowed
  · cases allowed
  · split at allowed
    · cases allowed
    · next found =>
      split at allowed
      · cases allowed
        exact found
      · cases allowed

/-- The relationship and the items of an entry of an update of connections. -/
theorem planConnectionUpdates_of_mem {node : NodeType} {path : String}
    {entries : List (String × Value)} {updates : List ConnectionUpdate}
    (planned : basis.planConnectionUpdates node path entries = .ok updates) {name : String}
    {value : Value} (member : (name, value) ∈ entries) :
    ∃ relationship, node.relationship? name = some relationship ∧ ∃ items,
      itemsOf value = .ok items ∧ ∃ path made,
        Basis.planEach path "updateConnection" (basis.planConnectionUpdate relationship) items =
          .ok made := by
  induction entries generalizing updates with
  | nil => cases member
  | cons entry rest ih =>
      obtain ⟨other, first⟩ := entry
      obtain ⟨relationship, allowed, planned⟩ := Outcome.bind_ok_iff.mp planned
      obtain ⟨items, read, planned⟩ := Outcome.bind_ok_iff.mp planned
      obtain ⟨made, each, planned⟩ := Outcome.bind_ok_iff.mp planned
      obtain ⟨others, left, -⟩ := Outcome.bind_ok_iff.mp planned
      rcases List.mem_cons.mp member with here | later
      · cases here
        exact ⟨relationship, updatableRelationship_ok allowed, items, read, _, made, each⟩
      · exact ih left later

/-- What stands for an empty object gives no properties. -/
theorem entriesOf?_orEmpty_get? (entries : Entries Value) (key : String) :
    entriesOf? (orEmpty (entries.get? key)) = entriesOf? ((entries.get? key).getD .null) := by
  cases entries.get? key with
  | none => rfl
  | some value => exact entriesOf?_orEmpty value

/-- The parts of a planned update. -/
theorem plan_update_ok {key typeName : String} {response : ResponseSelection}
    {filter assignments connections : Value} {plan : Plan}
    (planned : basis.plan (.update key typeName response filter assignments connections) =
      .ok plan) :
    ∃ (node : NodeType) (entries given : Entries Value) (nested : List EntryPlan)
      (updates : List ConnectionUpdate) (condition : List Assignment) (answer : ResponsePlan),
      basis.model.node typeName = .ok node ∧ entriesOf? assignments = some entries ∧
      checkKeys node key false entries = .ok () ∧
      basis.planEntries node key entries = .ok nested ∧
      entriesOf? connections = some given ∧
      basis.planConnectionUpdates node key given = .ok updates ∧
      plan = .update node.name condition (propertiesIn node entries) nested updates answer := by
  obtain ⟨node, found, planned⟩ := Outcome.bind_ok_iff.mp planned
  obtain ⟨condition, -, planned⟩ := Outcome.bind_ok_iff.mp planned
  obtain ⟨entries, read, planned⟩ := Outcome.bind_ok_iff.mp planned
  obtain ⟨⟨⟩, checked, planned⟩ := Outcome.bind_ok_iff.mp planned
  obtain ⟨nested, entered, planned⟩ := Outcome.bind_ok_iff.mp planned
  obtain ⟨given, taken, planned⟩ := Outcome.bind_ok_iff.mp planned
  obtain ⟨updates, updated, planned⟩ := Outcome.bind_ok_iff.mp planned
  obtain ⟨answer, -, made⟩ := Outcome.bind_ok_iff.mp planned
  rw [Failure.ofLookup, Outcome.mapError_ok_iff] at found
  rw [objectEntries_orEmpty_ok_iff] at read taken
  cases made
  exact ⟨node, entries, given, nested, updates, condition, answer, found, read, checked, entered,
    taken, updated, rfl⟩

/-- The parts of what a root field is planned as. -/
theorem plan_told {field : RootField} {plan : Plan} (planned : basis.plan field = .ok plan) :
    match field with
    | .list _ typeName _ _ => ∃ (node : NodeType) (condition : List Assignment)
        (fields : List FieldPlan), basis.model.node typeName = .ok node ∧
        plan = .list node.name condition fields
    | .lookup _ id _ => ∃ variants : List VariantPlan, plan = .lookup id variants
    | .create key typeName inputs _ => ∃ (node : NodeType) (nodes : List NodePlan)
        (answer : ResponsePlan), basis.model.node typeName = .ok node ∧
        (inputs.zipIdx.mapM fun (input, index) => basis.planNode node s!"{key}[{index}]" input) =
          .ok nodes ∧
        plan = .create nodes answer
    | .update key typeName _ _ assignments connections => ∃ (node : NodeType)
        (entries given : Entries Value) (nested : List EntryPlan) (updates : List ConnectionUpdate)
        (condition : List Assignment) (answer : ResponsePlan),
        basis.model.node typeName = .ok node ∧ entriesOf? assignments = some entries ∧
        checkKeys node key false entries = .ok () ∧
        basis.planEntries node key entries = .ok nested ∧
        entriesOf? connections = some given ∧
        basis.planConnectionUpdates node key given = .ok updates ∧
        plan = .update node.name condition (propertiesIn node entries) nested updates answer
    | .typename _ _ => False := by
  cases field with
  | list key typeName selection filter =>
      obtain ⟨node, found, planned⟩ := Outcome.bind_ok_iff.mp planned
      obtain ⟨condition, -, planned⟩ := Outcome.bind_ok_iff.mp planned
      obtain ⟨fields, -, made⟩ := Outcome.bind_ok_iff.mp planned
      cases made
      exact ⟨node, condition, fields, Outcome.mapError_ok_iff.mp found, rfl⟩
  | lookup key id variants =>
      simp only [Basis.plan] at planned
      split at planned
      · cases planned
      · split at planned
        · cases planned
        · obtain ⟨branches, -, made⟩ := Outcome.bind_ok_iff.mp planned
          cases made
          exact ⟨branches, rfl⟩
  | create key typeName inputs response =>
      obtain ⟨node, found, planned⟩ := Outcome.bind_ok_iff.mp planned
      obtain ⟨nodes, each, planned⟩ := Outcome.bind_ok_iff.mp planned
      obtain ⟨answer, -, made⟩ := Outcome.bind_ok_iff.mp planned
      cases made
      exact ⟨node, nodes, answer, Outcome.mapError_ok_iff.mp found, each, rfl⟩
  | update key typeName response filter assignments connections => exact plan_update_ok planned
  | typename key typeName => cases planned

/-- All writes that a planned root field asks for are lawful. -/
theorem Asks.lawful (sound : basis.model.IsSound)
    (offered : basis.features.relationshipProperties = true) {field : RootField} {write : Write}
    {plan : Plan} (asks : Asks basis.model field write) (planned : basis.plan field = .ok plan) :
    write.IsLawful basis.model := by
  cases asks with
  | create resolved member asks =>
      obtain ⟨node, found, planned⟩ := Outcome.bind_ok_iff.mp planned
      rw [Failure.ofLookup, Outcome.mapError_ok_iff, resolved] at found
      cases found
      obtain ⟨nodes, each, -⟩ := Outcome.bind_ok_iff.mp planned
      obtain ⟨index, inside, same⟩ := List.getElem_of_mem member
      have among : (_, index) ∈ _ := List.mk_mem_zipIdx_iff_getElem?.mpr
        (same ▸ List.getElem?_eq_getElem inside)
      obtain ⟨made, -, done⟩ := Outcome.mapM_ok_of_mem each among
      exact asks.lawful sound offered done
  | update resolved read =>
      obtain ⟨node, entries, _, _, _, _, _, found, here, checked, -⟩ := plan_update_ok planned
      rw [resolved] at found
      rw [read] at here
      cases found
      cases here
      exact lawful_of_checkKeys sound (Model.node_mem resolved) checked
  | nested resolved read member given asks =>
      obtain ⟨node, entries, _, _, _, _, _, found, here, -, entered, -⟩ := plan_update_ok planned
      rw [resolved] at found
      rw [read] at here
      cases found
      cases here
      obtain ⟨path, made, done⟩ := planEntries_of_mem entered member given
      exact asks.lawful sound offered done
  | connection resolved read member known inside =>
      obtain ⟨node, _, entries, _, _, _, _, found, -, -, -, here, updated, -⟩ :=
        plan_update_ok planned
      rw [resolved] at found
      rw [read] at here
      cases found
      cases here
      obtain ⟨relationship, same, items, listed, path, made, each⟩ :=
        planConnectionUpdates_of_mem updated member
      rw [itemsOf_list] at listed
      rw [known] at same
      cases listed
      cases same
      obtain ⟨path, made, -, done⟩ := planEach_of_mem each inside
      obtain ⟨others, related, properties, filter, whole, -, -, assigned, -⟩ :=
        (planConnectionUpdate_ok_iff basis).mp done
      cases whole
      have lawful := lawful_of_planProperties sound offered assigned
      rw [entriesOf?_orEmpty_get?] at lawful
      exact lawful

end

end GraphGateway.Statement
