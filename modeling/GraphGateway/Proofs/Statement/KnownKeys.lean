import GraphGateway.Proofs.Statement.Accepted

/-!
Keys that an input knows.  The input of a mutation is a tree of objects, each on a level with its own
keys.  Nodes, fields, filters and properties with any other key are refused, however deep they lie.
The entries of a relationship are not checked: whatever else they have is dropped.
-/
namespace GraphGateway.Statement

open Request Schema

/-- What an object in the input of a mutation stands for. -/
inductive Level where
  | created (node : NodeType)
  | changed (node : NodeType)
  /-- What a relationship of a node gets. -/
  | field
  | creation
  | connection
  | connectionUpdate
  | filter (node : NodeType)
  | properties (relationship : Relationship)
  /-- The connections of a node whose properties are changed. -/
  | connections (node : NodeType)

/-- The keys that a level has. -/
def Level.keys (basis : Basis) : Level → List String
  | created node => identifierName ::
      (node.fields.map PropertyField.name ++ node.relationships.map Relationship.name)
  | changed node => node.fields.map PropertyField.name ++ node.relationships.map Relationship.name
  | field => [createKey, connectKey]
  | creation => ["node", "properties"]
  | connection => ["where", "properties"]
  | connectionUpdate => ["where", "properties"]
  | filter node =>
      identifierName :: (node.fields.filter (!·.type.isList)).map PropertyField.name
  | properties relationship =>
      ((basis.model.offeredProperties? basis.features.relationshipProperties relationship).map
        fun type => type.fields.map PropertyField.name).getD []
  | connections node =>
      (basis.model.updatableConnections basis.features.relationshipProperties node).map
        fun entry => entry.1.name

/-- Whether the keys of a level are checked; those of an entry are not. -/
def Level.isChecked : Level → Bool
  | creation => false
  | connection => false
  | connectionUpdate => false
  | _ => true

/-- The objects of an entry with a filter, which stands on a level of its own. -/
inductive EntryHolds (model : Model) (own : Level) (relationship : Relationship) :
    Value → Level → Entries Value → Prop where
  | self {entries : Entries Value} : EntryHolds model own relationship (.object entries) own entries
  | filter {entries inner : Entries Value} {related : NodeType}
      (resolved : model.related relationship = .ok related)
      (found : entries.get? "where" = some (.object inner)) :
      EntryHolds model own relationship (.object entries) (.filter related) inner
  | properties {entries inner : Entries Value}
      (found : entries.get? "properties" = some (.object inner)) :
      EntryHolds model own relationship (.object entries) (.properties relationship) inner

mutual

/-- The objects in the input for a new node. -/
inductive NodeHolds (model : Model) : NodeType → Value → Level → Entries Value → Prop where
  | self {node : NodeType} {entries : Entries Value} :
      NodeHolds model node (.object entries) (.created node) entries
  | nested {node : NodeType} {entries inner : Entries Value} {relationship : Relationship}
      {input : Value} {level : Level} (member : relationship ∈ node.relationships)
      (found : entries.get? relationship.name = some input)
      (holds : FieldHolds model relationship input level inner) :
      NodeHolds model node (.object entries) level inner

/-- The objects in the input for a relationship of a node. -/
inductive FieldHolds (model : Model) : Relationship → Value → Level → Entries Value → Prop where
  | self {relationship : Relationship} {entries : Entries Value} :
      FieldHolds model relationship (.object entries) .field entries
  | created {relationship : Relationship} {entries inner : Entries Value} {items : List Value}
      {item : Value} {level : Level} (found : entries.get? createKey = some (.list items))
      (member : item ∈ items) (holds : CreateHolds model relationship item level inner) :
      FieldHolds model relationship (.object entries) level inner
  | connected {relationship : Relationship} {entries inner : Entries Value} {items : List Value}
      {item : Value} {level : Level} (found : entries.get? connectKey = some (.list items))
      (member : item ∈ items) (holds : EntryHolds model .connection relationship item level inner) :
      FieldHolds model relationship (.object entries) level inner

/-- The objects in the input for a relationship to a new node. -/
inductive CreateHolds (model : Model) : Relationship → Value → Level → Entries Value → Prop where
  | self {relationship : Relationship} {entries : Entries Value} :
      CreateHolds model relationship (.object entries) .creation entries
  | properties {relationship : Relationship} {entries inner : Entries Value}
      (found : entries.get? "properties" = some (.object inner)) :
      CreateHolds model relationship (.object entries) (.properties relationship) inner
  | node {relationship : Relationship} {entries inner : Entries Value} {related : NodeType}
      {input : Value} {level : Level} (resolved : model.related relationship = .ok related)
      (found : entries.get? "node" = some input)
      (holds : NodeHolds model related input level inner) :
      CreateHolds model relationship (.object entries) level inner

end

/-- The objects in the input of a mutation, with their levels. -/
inductive InputHolds (model : Model) : RootField → Level → Entries Value → Prop where
  | create {key typeName : String} {inputs : List Value} {response : ResponseSelection}
      {node : NodeType} {input : Value} {level : Level} {inner : Entries Value}
      (resolved : model.node typeName = .ok node) (member : input ∈ inputs)
      (holds : NodeHolds model node input level inner) :
      InputHolds model (.create key typeName inputs response) level inner
  | filter {key typeName : String} {response : ResponseSelection} {assignments connections : Value}
      {node : NodeType} {inner : Entries Value} (resolved : model.node typeName = .ok node) :
      InputHolds model (.update key typeName response (.object inner) assignments connections)
        (.filter node) inner
  | changed {key typeName : String} {response : ResponseSelection} {filter connections : Value}
      {node : NodeType} {inner : Entries Value} (resolved : model.node typeName = .ok node) :
      InputHolds model (.update key typeName response filter (.object inner) connections)
        (.changed node) inner
  | nested {key typeName : String} {response : ResponseSelection} {filter connections : Value}
      {node : NodeType} {entries inner : Entries Value} {relationship : Relationship} {input : Value}
      {level : Level} (resolved : model.node typeName = .ok node)
      (member : relationship ∈ node.relationships)
      (found : entries.get? relationship.name = some input)
      (holds : FieldHolds model relationship input level inner) :
      InputHolds model (.update key typeName response filter (.object entries) connections) level inner
  | connections {key typeName : String} {response : ResponseSelection} {filter assignments : Value}
      {node : NodeType} {inner : Entries Value} (resolved : model.node typeName = .ok node) :
      InputHolds model (.update key typeName response filter assignments (.object inner))
        (.connections node) inner
  | connectionUpdate {key typeName : String} {response : ResponseSelection}
      {filter assignments : Value} {node : NodeType} {entries inner : Entries Value} {name : String}
      {items : List Value} {relationship : Relationship} {item : Value} {level : Level}
      (resolved : model.node typeName = .ok node) (member : (name, Value.list items) ∈ entries)
      (known : node.relationship? name = some relationship) (inside : item ∈ items)
      (holds : EntryHolds model .connectionUpdate relationship item level inner) :
      InputHolds model (.update key typeName response filter assignments (.object entries)) level inner

theorem InputHolds.mutates {model : Model} {field : RootField} {level : Level} {inner : Entries Value}
    (holds : InputHolds model field level inner) : Mutates model field := by
  cases holds with
  | create resolved => exact ⟨_, resolved⟩
  | filter resolved => exact ⟨_, resolved⟩
  | changed resolved => exact ⟨_, resolved⟩
  | nested resolved => exact ⟨_, resolved⟩
  | connections resolved => exact ⟨_, resolved⟩
  | connectionUpdate resolved => exact ⟨_, resolved⟩

/-- The input of a mutation is the same whatever it answers. -/
theorem InputHolds.unanswered {model : Model} {field : RootField} {level : Level}
    {inner : Entries Value} (holds : InputHolds model field level inner) :
    InputHolds model (unanswered field) level inner := by
  cases holds with
  | create resolved member holds => exact .create resolved member holds
  | filter resolved => exact .filter resolved
  | changed resolved => exact .changed resolved
  | nested resolved member found holds => exact .nested resolved member found holds
  | connections resolved => exact .connections resolved
  | connectionUpdate resolved member known inside holds =>
      exact .connectionUpdate resolved member known inside holds

theorem eq_of_same_text {item : Value} {content : String}
    (same : item.same (.text content) = true) : item = .text content := by
  cases item <;> simp_all [Value.same, Value.sameMagnitude, Value.magnitude?, Value.isNull]

/-- A text is among the different items if it is among the items. -/
theorem text_mem_distinctItems {items : List Value} {content : String}
    (member : .text content ∈ items) : .text content ∈ Value.distinctItems items := by
  have grown : ∀ kept : List Value, .text content ∈ kept ∨ .text content ∈ items →
      .text content ∈ items.foldl
        (fun kept item => if kept.any (·.same item) then kept else kept ++ [item]) kept := by
    clear member
    induction items with
    | nil => exact fun kept inside => inside.resolve_right List.not_mem_nil
    | cons first rest ih =>
        intro kept inside
        rw [List.foldl_cons]
        refine ih _ ?_
        split
        · next known =>
          rcases inside with old | new
          · exact .inl old
          · rcases List.mem_cons.mp new with rfl | later
            · obtain ⟨item, among, same⟩ := List.any_eq_true.mp known
              exact .inl (eq_of_same_text same ▸ among)
            · exact .inr later
        · rcases inside with old | new
          · exact .inl (List.mem_append_left _ old)
          · exact (List.mem_cons.mp new).imp_left fun here => by simp [here]
  exact grown [] (.inr member)

/-- Only the two keys of a field pass. -/
theorem checkFieldKeys_known {path : String} {keys : List String}
    (checked : checkFieldKeys path (keys.map .text) = .ok ()) :
    ∀ name ∈ keys, name ∈ [createKey, connectKey] := by
  intro name member
  unfold checkFieldKeys at checked
  split at checked
  · cases checked
  · dsimp only at checked
    split at checked
    · next none_ =>
      rw [List.isEmpty_iff, List.filter_eq_nil_iff] at none_
      have known := none_ _ (text_mem_distinctItems (List.mem_map_of_mem member))
      simpa [Value.same, Decidable.or_iff_not_imp_left] using known
    · split at checked <;> cases checked

section

variable {basis : Basis}

theorem created_known {node : NodeType} {path : String} {entries : Entries Value}
    (checked : checkKeys node path true entries = .ok ()) :
    ∀ name ∈ entries.keys, name ∈ (Level.created node).keys basis :=
  checkKeys_create_ok_iff.mp checked

theorem changed_known {node : NodeType} {path : String} {entries : Entries Value}
    (checked : checkKeys node path false entries = .ok ()) :
    ∀ name ∈ entries.keys, name ∈ (Level.changed node).keys basis := by
  refine List.forall_mem_map.mpr fun entry member => List.mem_append.mpr ?_
  rcases checkKeys_ok_iff.mp checked entry member with known | found
  · exact .inr (relationship?_isSome_iff.mp known)
  · split at found
    · cases found
    · next other =>
      obtain ⟨field, here, -⟩ := found
      exact .inl ((field?_isSome_iff other).mp (Option.isSome_iff_exists.mpr ⟨field, here⟩))

theorem filter_known {node : NodeType} {path : String} {entries : Entries Value}
    {filter : List Assignment} (read : readFilter node (.object entries) path = .ok filter) :
    ∀ name ∈ entries.keys, name ∈ (Level.filter node).keys basis :=
  fun name member => mem_of_isFilter (readFilter_object_ok_iff.mp ⟨filter, read⟩ name member)

theorem properties_known {relationship : Relationship} {given : Value} {path : String}
    {creating : Bool} {accepted : List Assignment} {entries : Entries Value}
    (planned : basis.planProperties relationship given path creating = .ok accepted)
    (read : entriesOf? given = some entries) :
    ∀ name ∈ entries.keys, name ∈ (Level.properties relationship).keys basis := by
  rw [planProperties_ok_iff] at planned
  dsimp only [Level.keys]
  cases found : basis.model.offeredProperties? basis.features.relationshipProperties
      relationship with
  | none =>
      rw [found] at planned
      have empty : entries = [] := by
        refine entriesOf?_eq_nil (fun others same => ?_) read
        rw [same] at planned
        cases planned.1
      rw [empty]
      exact List.forall_mem_nil _
  | some type =>
      rw [found] at planned
      obtain ⟨others, readToo, assigned⟩ := planned
      cases read.symm.trans readToo
      exact unknownProperty_none_iff.mp (relationshipAssignments_ok_iff.mp assigned).1

theorem connections_known {node : NodeType} {path : String} {entries : List (String × Value)}
    {updates : List ConnectionUpdate}
    (planned : basis.planConnectionUpdates node path entries = .ok updates) :
    ∀ name ∈ Entries.keys entries, name ∈ (Level.connections node).keys basis := by
  induction entries generalizing updates with
  | nil => exact List.forall_mem_nil _
  | cons entry rest ih =>
      obtain ⟨relationship, allowed, planned⟩ := Outcome.bind_ok_iff.mp planned
      obtain ⟨items, -, planned⟩ := Outcome.bind_ok_iff.mp planned
      obtain ⟨made, -, planned⟩ := Outcome.bind_ok_iff.mp planned
      obtain ⟨others, left, -⟩ := Outcome.bind_ok_iff.mp planned
      exact List.forall_mem_cons.mpr ⟨Basis.mem_of_updatableRelationship allowed, ih left⟩

/-- The objects of an entry that connects have known keys where these are checked. -/
theorem EntryHolds.known_of_connect {relationship : Relationship} {item : Value} {path : String}
    {plan : EntryPlan} (planned : basis.planConnect relationship path item = .ok plan)
    {level : Level} {inner : Entries Value}
    (holds : EntryHolds basis.model .connection relationship item level inner)
    (checked : level.isChecked = true) : ∀ name ∈ inner.keys, name ∈ level.keys basis := by
  obtain ⟨entries, related, properties, filter, same, there, assigned, -, read, -⟩ :=
    (planConnect_ok_iff basis).mp planned
  cases holds with
  | self => cases checked
  | filter resolved found =>
      cases same
      rw [there] at resolved
      cases resolved
      rw [found] at read
      exact filter_known read
  | properties found =>
      cases same
      rw [found] at assigned
      exact properties_known assigned rfl

theorem EntryHolds.known_of_connectionUpdate {relationship : Relationship} {item : Value}
    {path : String} {update : ConnectionUpdate}
    (planned : basis.planConnectionUpdate relationship path item = .ok update)
    {level : Level} {inner : Entries Value}
    (holds : EntryHolds basis.model .connectionUpdate relationship item level inner)
    (checked : level.isChecked = true) : ∀ name ∈ inner.keys, name ∈ level.keys basis := by
  obtain ⟨entries, related, properties, filter, same, there, -, assigned, read, -⟩ :=
    (planConnectionUpdate_ok_iff basis).mp planned
  cases holds with
  | self => cases checked
  | filter resolved found =>
      cases same
      rw [there] at resolved
      cases resolved
      rw [found] at read
      exact filter_known read
  | properties found =>
      cases same
      refine properties_known assigned ?_
      rw [entriesOf?_orEmpty_get?, found]
      rfl

mutual

/-- The objects of the input for a node that is planned have known keys where these are checked. -/
theorem NodeHolds.known {node : NodeType} {input : Value} {path : String} {plan : NodePlan}
    (planned : basis.planNode node path input = .ok plan) {level : Level} {inner : Entries Value}
    (holds : NodeHolds basis.model node input level inner) (checked : level.isChecked = true) :
    ∀ name ∈ inner.keys, name ∈ level.keys basis := by
  obtain ⟨entries, nested, same, keys, -, entered, -⟩ := planNode_ok_iff.mp planned
  cases holds with
  | self =>
      cases same
      exact created_known keys
  | nested member found holds =>
      cases same
      obtain ⟨path, made, done⟩ := planEntries_of_mem entered member found
      exact holds.known done checked
  termination_by sizeOf input
  decreasing_by
    subst_vars
    exact sizeOf_get?_lt found

theorem FieldHolds.known {relationship : Relationship} {input : Value} {path : String}
    {plans : List EntryPlan} (planned : basis.planFieldInput relationship path input = .ok plans)
    {level : Level} {inner : Entries Value}
    (holds : FieldHolds basis.model relationship input level inner)
    (checked : level.isChecked = true) : ∀ name ∈ inner.keys, name ∈ level.keys basis := by
  rcases planFieldInput_ok_iff.mp planned with
    ⟨rfl, -⟩ | ⟨entries, created, joined, same, keys, creations, connections, -⟩
  · cases holds
  · cases holds with
    | self =>
        cases same
        exact checkFieldKeys_known keys
    | created found member holds =>
        cases same
        rw [creations_of_list found] at creations
        obtain ⟨path, made, -, done⟩ := planEach_of_mem creations member
        exact holds.known done checked
    | connected found member holds =>
        cases same
        unfold Basis.planConnections at connections
        rw [found] at connections
        obtain ⟨items, read, each⟩ := Outcome.bind_ok_iff.mp connections
        rw [itemsOf_list] at read
        cases read
        obtain ⟨path, made, -, done⟩ := planEach_of_mem each member
        exact holds.known_of_connect done checked
  termination_by sizeOf input
  decreasing_by
    subst_vars
    have outer := sizeOf_get?_lt found
    have inner := List.sizeOf_lt_of_mem member
    simp only [Value.list.sizeOf_spec] at outer
    omega

theorem CreateHolds.known {relationship : Relationship} {input : Value} {path : String}
    {plan : EntryPlan} (planned : basis.planCreate relationship path input = .ok plan)
    {level : Level} {inner : Entries Value}
    (holds : CreateHolds basis.model relationship input level inner)
    (checked : level.isChecked = true) : ∀ name ∈ inner.keys, name ∈ level.keys basis := by
  obtain ⟨entries, related, properties, given, node, same, there, assigned, here, made, -⟩ :=
    planCreate_ok_iff.mp planned
  cases holds with
  | self => cases checked
  | properties found =>
      cases same
      rw [found] at assigned
      exact properties_known assigned rfl
  | node resolved found holds =>
      cases same
      rw [there] at resolved
      rw [found] at here
      cases resolved
      cases here
      exact holds.known made checked
  termination_by sizeOf input
  decreasing_by
    subst_vars
    exact sizeOf_get?_lt found

end

/-- The objects of the input of a mutation that is planned have known keys where these are
checked. -/
theorem InputHolds.known {field : RootField} {plan : Plan} (planned : basis.plan field = .ok plan)
    {level : Level} {inner : Entries Value} (holds : InputHolds basis.model field level inner)
    (checked : level.isChecked = true) : ∀ name ∈ inner.keys, name ∈ level.keys basis := by
  cases holds with
  | create resolved member holds =>
      obtain ⟨node, nodes, answer, found, each, -⟩ := plan_told planned
      rw [resolved] at found
      cases found
      obtain ⟨index, inside, same⟩ := List.getElem_of_mem member
      have among : (_, index) ∈ _ := List.mk_mem_zipIdx_iff_getElem?.mpr
        (same ▸ List.getElem?_eq_getElem inside)
      obtain ⟨made, -, done⟩ := Outcome.mapM_ok_of_mem each among
      exact holds.known done checked
  | filter resolved =>
      obtain ⟨node, found, planned⟩ := Outcome.bind_ok_iff.mp planned
      obtain ⟨condition, read, -⟩ := Outcome.bind_ok_iff.mp planned
      rw [Failure.ofLookup, Outcome.mapError_ok_iff, resolved] at found
      cases found
      exact filter_known read
  | changed resolved =>
      obtain ⟨node, entries, _, _, _, _, _, found, here, keys, -⟩ := plan_update_ok planned
      rw [resolved] at found
      cases found
      cases here
      exact changed_known keys
  | nested resolved member given holds =>
      obtain ⟨node, entries, _, _, _, _, _, found, here, -, entered, -⟩ := plan_update_ok planned
      rw [resolved] at found
      cases found
      cases here
      obtain ⟨path, made, done⟩ := planEntries_of_mem entered member given
      exact holds.known done checked
  | connections resolved =>
      obtain ⟨node, _, entries, _, _, _, _, found, -, -, -, here, updated, -⟩ :=
        plan_update_ok planned
      rw [resolved] at found
      cases found
      cases here
      exact connections_known updated
  | connectionUpdate resolved member known inside holds =>
      obtain ⟨node, _, entries, _, _, _, _, found, -, -, -, here, updated, -⟩ :=
        plan_update_ok planned
      rw [resolved] at found
      cases found
      cases here
      obtain ⟨relationship, same, items, read, path, made, each⟩ :=
        planConnectionUpdates_of_mem updated member
      rw [known] at same
      cases same
      rw [itemsOf_list] at read
      cases read
      obtain ⟨path, made, -, done⟩ := planEach_of_mem each inside
      exact holds.known_of_connectionUpdate done checked

end

/-- A mutation with a key that a checked level does not have is not compiled.  If the mutation is of
the shape that the types of the inputs give, it is refused for its input, or because a relationship
that it creates lacks what it requires.  The entries of a relationship are planned by the keys of
their level alone, whatever else they have. -/
theorem unknown_keys_refused_where_checked (basis : Basis) :
    (∀ field level entries, InputHolds basis.model field level entries → level.isChecked = true →
      (∃ name ∈ entries.keys, name ∉ level.keys basis) →
      ∃ failure, basis.compile field = .error failure ∧
        (basis.model.FindsRelated → Shaped basis.model field →
          IsRefusalOf (∀ write, Asks basis.model field write → write.IsLawful basis.model)
            failure)) ∧
    ∀ (relationship : Relationship) (path : String) (entries others : Entries Value),
      ((∀ key ∈ Level.creation.keys basis, entries.get? key = others.get? key) →
        basis.planCreate relationship path (.object entries) =
          basis.planCreate relationship path (.object others)) ∧
      ((∀ key ∈ Level.connection.keys basis, entries.get? key = others.get? key) →
        basis.planConnect relationship path (.object entries) =
          basis.planConnect relationship path (.object others)) ∧
      ((∀ key ∈ Level.connectionUpdate.keys basis, entries.get? key = others.get? key) →
        basis.planConnectionUpdate relationship path (.object entries) =
          basis.planConnectionUpdate relationship path (.object others)) := by
  refine ⟨fun field level entries holds checked ⟨name, member, unknown⟩ => ?_, ?_⟩
  · cases planned : basis.plan (unanswered field) with
    | ok plan => exact absurd (holds.unanswered.known planned checked name member) unknown
    | error failure =>
        have failed := plan_error_of_unanswered planned
        exact ⟨failure, Outcome.bind_error_iff.mpr (.inl failed), fun linked shaped =>
          plan_unanswered_refuses linked shaped holds.mutates failure planned⟩
  · intro relationship path entries others
    refine ⟨fun same => ?_, fun same => ?_, fun same => ?_⟩
    · rw [planCreate_object, planCreate_object, same "node" (by simp [Level.keys]),
        same "properties" (by simp [Level.keys])]
    · unfold Basis.planConnect objectEntries
      dsimp only [bind, Except.bind]
      rw [same "where" (by simp [Level.keys]), same "properties" (by simp [Level.keys])]
    · unfold Basis.planConnectionUpdate objectEntries
      dsimp only [bind, Except.bind]
      rw [same "where" (by simp [Level.keys]), same "properties" (by simp [Level.keys])]

end GraphGateway.Statement

namespace GraphGateway.Service

open Request Schema Statement

/-- A request for other properties of all roles, from an entry with these keys. -/
def recasting (entry : Entries Value) : RootField :=
  .update "updateMovies" "Movie" { typeName := "UpdateMoviesMutationResponse" } .null .null
    (.object [("actors", .list [.object entry])])

theorem recasting_holds {entry inner : Entries Value} {level : Level}
    (holds : EntryHolds stage.model .connectionUpdate stageActors (.object entry) level inner) :
    InputHolds stage.model (recasting entry) level inner := by
  obtain ⟨movie, found, alone⟩ := stage_movie
  have known : movie.relationship? "actors" = some stageActors := by
    unfold NodeType.relationship?
    rw [alone]
    rfl
  exact .connectionUpdate found (List.mem_singleton_self _) known (List.mem_singleton_self _) holds

theorem recasting_shaped {entry : Entries Value} (shaped : IsMatch (.object entry)) :
    Shaped stage.model (recasting entry) := by
  refine .update .null .null (.object _) (fun _ _ _ => nofun) ?_ ?_
  · rintro _ ⟨⟩ name value member
    cases List.mem_singleton.mp member
    exact .list _
  · rintro _ ⟨⟩ name items member item inside
    cases List.mem_singleton.mp member
    rw [List.mem_singleton.mp inside]
    exact shaped

theorem unknown_keys_refused_where_checked_recasting :
    (∃ failure, stage.basis.compile (recasting [("where", .object [("nme", .text "Ann")])]) =
      .error failure ∧ IsRefusal failure) ∧
    stage.basis.planConnectionUpdate stageActors "actors"
        (.object [("where", .object []), ("propertees", .object [("role", .text "Dallas")])]) =
      stage.basis.planConnectionUpdate stageActors "actors" (.object [("where", .object [])]) := by
  constructor
  · obtain ⟨person, there, -⟩ := stage_person
    have strange : "nme" ∉ (Level.filter person).keys stage.basis := by
      have told : (match stage.model.related stageActors with
          | .ok person => !((Level.filter person).keys stage.basis).contains "nme"
          | .error _ => false) = true := by
        rw [stage_basis, stage_model]
        decide
      rw [there] at told
      simpa using told
    have linked : stage.basis.model.FindsRelated := (Served.sound_of_document stage_made rfl).1.related
    have named : "nme" ∈ Entries.keys [("nme", Value.text "Ann")] := List.mem_singleton_self _
    have holds : InputHolds stage.model (recasting [("where", .object [("nme", .text "Ann")])])
        (.filter person) [("nme", .text "Ann")] := recasting_holds (.filter there rfl)
    obtain ⟨failure, failed, refusal⟩ := (unknown_keys_refused_where_checked stage.basis).1 _ _ _
      holds rfl ⟨"nme", named, strange⟩
    exact ⟨failure, failed,
      (refusal linked (recasting_shaped (.mk (.object _) .null))).isRefusal⟩
  · refine ((unknown_keys_refused_where_checked stage.basis).2 _ _ _ _).2.2 fun key known => ?_
    rcases List.mem_pair.mp known with rfl | rfl <;> rfl

/-- A misspelt key of an entry is dropped, and with it what should have been written. -/
theorem exists_ignored_key_recasting :
    ∃ compiled, stage.basis.compile
        (recasting [("where", .object []), ("propertees", .object [("role", .text "Dallas")])]) =
          .ok compiled ∧
      InputHolds stage.model
        (recasting [("where", .object []), ("propertees", .object [("role", .text "Dallas")])])
        .connectionUpdate
        [("where", .object []), ("propertees", .object [("role", .text "Dallas")])] ∧
      "propertees" ∉ Level.connectionUpdate.keys stage.basis :=
  by
    rw [stage_basis]
    exact ⟨_, Outcome.eq_ok_of_isSome (by decide +kernel), recasting_holds .self, by decide⟩

end GraphGateway.Service
