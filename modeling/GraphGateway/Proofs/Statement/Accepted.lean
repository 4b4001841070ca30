import GraphGateway.Proofs.Schema.Closed
import GraphGateway.Proofs.Statement.ReadPlan
import GraphGateway.Proofs.Statement.Required

/-!
Inputs as they are declared and as they are planned.  The types of inputs say which keys a client
may give; planning checks the keys again, against the model.  Both accept the same keys: a filter, a
new node, a changed node and the properties of a relationship are refused for a key exactly if their
input has no field of that name.
-/
namespace GraphGateway.Statement

open Request Schema

section

variable {node : NodeType}

theorem filterEntries_accepts_iff {entries : List (String × Value)} :
    (filterEntries node entries).2 = none ↔
      ∀ name ∈ Entries.keys entries, ((node.field? name).filter (!·.type.isList)).isSome = true := by
  induction entries with
  | nil => simp [filterEntries, Entries.keys]
  | cons entry rest ih =>
      obtain ⟨name, value⟩ := entry
      unfold filterEntries
      cases found : (node.field? name).filter (!·.type.isList) with
      | none =>
          simp only [Entries.keys, List.map_cons, List.forall_mem_cons, found, Option.isSome_none,
            Bool.false_eq_true, false_and, reduceCtorEq]
      | some field =>
          simp only [Entries.keys] at ih
          simp only [Entries.keys, List.map_cons, List.forall_mem_cons, found, Option.isSome_some,
            true_and]
          exact ih

/-- A filter is read if it has no key besides those that filter. -/
theorem readFilter_object_ok_iff {entries : Entries Value} {path : String} :
    (∃ filter, readFilter node (.object entries) path = .ok filter) ↔
      ∀ name ∈ entries.keys, ((node.field? name).filter (!·.type.isList)).isSome = true := by
  rw [← filterEntries_accepts_iff]
  constructor
  · rintro ⟨filter, read⟩
    obtain ⟨others, same, found⟩ := readFilter_ok_iff.mp read
    cases same
    rw [found]
  · intro whole
    refine ⟨(filterEntries node entries).1, readFilter_ok_iff.mpr ⟨entries, rfl, ?_⟩⟩
    rw [← whole]

/-- The checks of the keys of an input, for all of them. -/
theorem checkKeys_ok_iff {path : String} {creating : Bool} {entries : List (String × Value)} :
    checkKeys node path creating entries = .ok () ↔ ∀ entry ∈ entries,
      (node.relationship? entry.1).isSome = true ∨
        if entry.1 = identifierName then creating = true
        else ∃ field, node.field? entry.1 = some field ∧
          (entry.2.isNull && field.required && !creating) = false := by
  induction entries with
  | nil => simp [checkKeys]
  | cons entry rest ih =>
      obtain ⟨name, value⟩ := entry
      rw [checkKeys_cons_ok_iff, ih, List.forall_mem_cons]

theorem relationship?_isSome_iff {name : String} :
    (node.relationship? name).isSome = true ↔
      name ∈ node.relationships.map Relationship.name := by
  unfold NodeType.relationship?
  rw [List.find?_isSome]
  simp

/-- Besides the identifier, fields are found under the names of properties. -/
theorem field?_isSome_iff {name : String} (other : name ≠ identifierName) :
    (node.field? name).isSome = true ↔ name ∈ node.fields.map PropertyField.name := by
  unfold NodeType.field?
  rw [if_neg other, List.find?_isSome]
  simp

theorem mem_of_isFilter {name : String}
    (filters : ((node.field? name).filter (!·.type.isList)).isSome = true) :
    name ∈ identifierName :: (node.fields.filter (!·.type.isList)).map PropertyField.name := by
  by_cases own : name = identifierName
  · exact List.mem_cons.mpr (.inl own)
  · obtain ⟨field, found⟩ := Option.isSome_iff_exists.mp filters
    obtain ⟨found, single⟩ := Option.filter_eq_some_iff.mp found
    unfold NodeType.field? at found
    rw [if_neg own] at found
    have named : field.name = name := by simpa using List.find?_some found
    refine List.mem_cons_of_mem _ (List.mem_map.mpr ⟨field, ?_, named⟩)
    exact List.mem_filter.mpr ⟨List.mem_of_find?_eq_some found, single⟩

variable (names : (identifierName ::
  (node.fields.map PropertyField.name ++ node.relationships.map Relationship.name)).Nodup)

include names in
theorem isFilter_iff {name : String} :
    ((node.field? name).filter (!·.type.isList)).isSome = true ↔
      name ∈ identifierName :: (node.fields.filter (!·.type.isList)).map PropertyField.name := by
  by_cases own : name = identifierName
  · subst own
    simp [NodeType.field?, NodeType.identifierField]
  · constructor
    · exact mem_of_isFilter
    · intro member
      obtain ⟨field, inside, rfl⟩ := List.mem_map.mp ((List.mem_cons.mp member).resolve_left own)
      obtain ⟨inside, single⟩ := List.mem_filter.mp inside
      rw [(NodeType.field?_of_mem names inside).2.2]
      exact Option.isSome_iff_exists.mpr ⟨field, Option.filter_eq_some_iff.mpr ⟨rfl, single⟩⟩

/-- The keys of a new node are its identifier, its properties and its relationships. -/
theorem checkKeys_create_ok_iff {path : String} {entries : Entries Value} :
    checkKeys node path true entries = .ok () ↔ ∀ name ∈ entries.keys, name ∈ identifierName ::
      (node.fields.map PropertyField.name ++ node.relationships.map Relationship.name) := by
  rw [checkKeys_ok_iff, Entries.keys, List.forall_mem_map]
  refine forall₂_congr fun entry _ => ?_
  rw [List.mem_cons, List.mem_append, relationship?_isSome_iff]
  by_cases own : entry.1 = identifierName
  · simp [own]
  · have known : (node.field? entry.1).isSome = true ↔ _ := field?_isSome_iff own
    rw [Option.isSome_iff_exists] at known
    simp only [own, if_false, Bool.not_true, Bool.and_false, and_true, false_or]
    rw [known]
    exact or_comm

include names in
/-- The keys of a changed node are its properties and its relationships, and none that is required
becomes null. -/
theorem checkKeys_update_ok_iff {path : String} {entries : Entries Value} :
    checkKeys node path false entries = .ok () ↔
      (∀ name ∈ entries.keys,
        name ∈ node.fields.map PropertyField.name ++ node.relationships.map Relationship.name) ∧
        ∀ field ∈ node.fields, field.required = true → (field.name, Value.null) ∉ entries := by
  constructor
  · intro checked
    constructor
    · refine List.forall_mem_map.mpr fun entry member => ?_
      rw [List.mem_append]
      rcases checkKeys_ok_iff.mp checked entry member with known | found
      · exact .inr (relationship?_isSome_iff.mp known)
      · split at found
        · cases found
        · next other =>
          obtain ⟨field, here, -⟩ := found
          exact .inl ((field?_isSome_iff other).mp (Option.isSome_iff_exists.mpr ⟨field, here⟩))
    · intro field inside needed
      obtain ⟨other, free, found⟩ := NodeType.field?_of_mem names inside
      exact not_nulled_of_checkKeys checked found needed other free
  · rintro ⟨known, unharmed⟩
    refine checkKeys_ok_iff.mpr fun ⟨name, value⟩ member => ?_
    rcases List.mem_append.mp (known name (List.mem_map_of_mem member)) with property | relationship
    · obtain ⟨field, inside, rfl⟩ := List.mem_map.mp property
      obtain ⟨other, -, found⟩ := NodeType.field?_of_mem names inside
      right
      rw [if_neg other]
      refine ⟨field, found, ?_⟩
      cases needed : field.required with
      | false => simp
      | true =>
          have some_ : value ≠ .null := by
            rintro rfl
            exact unharmed field inside needed member
          cases value <;> simp_all [Value.isNull]
    · exact .inl (relationship?_isSome_iff.mpr relationship)

end

section

variable {type : PropertiesType} {entries : Entries Value}

theorem unknownProperty_none_iff :
    (entries.keys.find? fun name => (type.field? name).isNone) = none ↔
      ∀ name ∈ entries.keys, name ∈ type.fields.map PropertyField.name := by
  rw [List.find?_eq_none]
  refine forall₂_congr fun name _ => ?_
  unfold PropertiesType.field?
  rw [Bool.not_eq_true, Option.isNone_eq_false_iff, List.find?_isSome]
  simp

theorem missingProperty?_none_iff : missingProperty? type entries = none ↔
    ∀ field ∈ type.fields, field.required = true → isGiven entries field.name = true := by
  unfold missingProperty? PropertiesType.requiredFields
  rw [List.find?_eq_none]
  simp

theorem nulledProperty?_none_iff (distinct : (type.fields.map PropertyField.name).Nodup) :
    nulledProperty? type entries = none ↔
      ∀ field ∈ type.fields, field.required = true → (field.name, Value.null) ∉ entries := by
  unfold nulledProperty?
  rw [Option.map_eq_none_iff, List.find?_eq_none]
  constructor
  · intro unharmed field inside needed member
    have found : type.field? field.name = some field := find?_name_of_mem distinct inside
    have kept := unharmed _ member
    simp [found, needed, Value.isNull] at kept
  · rintro unharmed ⟨name, value⟩ member nulled
    rw [Bool.and_eq_true] at nulled
    cases found : type.field? name with
    | none => simp [found] at nulled
    | some field =>
        have named : field.name = name := by
          unfold PropertiesType.field? at found
          simpa using List.find?_some found
        have needed : field.required = true := by simpa [found] using nulled.2
        have null : value = .null := by
          cases value <;> first | rfl | cases nulled.1
        rw [← named, null] at member
        exact unharmed field (List.mem_of_find?_eq_some found) needed member

end

namespace Basis

variable {basis : Basis} {relationship : Relationship}

/-- Where no properties are offered, whatever is given for them is refused as such. -/
theorem planProperties_refused
    (none_ : basis.model.offeredProperties? basis.features.relationshipProperties relationship =
      none) {given : Value} {path : String} {creating : Bool} (some_ : given.isNull = false) :
    basis.planProperties relationship given path creating =
      Failure.invalid s!"'{relationship.name}' does not accept relationship properties" path := by
  unfold planProperties
  rw [none_]
  exact if_neg (by simp [some_])

/-- Where properties are offered, an object of them is judged by its keys and by what is required. -/
theorem planProperties_object_ok_iff {type : PropertiesType}
    (found : basis.model.offeredProperties? basis.features.relationshipProperties relationship =
      some type) {entries : Entries Value} {path : String} {creating : Bool} :
    (∃ accepted, basis.planProperties relationship (.object entries) path creating =
        .ok accepted) ↔
      (∀ name ∈ entries.keys, name ∈ type.fields.map PropertyField.name) ∧
        (creating = true → missingProperty? type entries = none) ∧
        (creating = false → nulledProperty? type entries = none) := by
  unfold planProperties
  rw [found]
  dsimp only
  rw [← unknownProperty_none_iff]
  constructor
  · rintro ⟨accepted, assigned⟩
    obtain ⟨known, complete, unharmed, -⟩ := relationshipAssignments_ok_iff.mp assigned
    exact ⟨known, complete, unharmed⟩
  · rintro ⟨known, complete, unharmed⟩
    exact ⟨_, relationshipAssignments_ok_iff.mpr ⟨known, complete, unharmed, rfl⟩⟩

theorem mem_of_updatableRelationship {node : NodeType} {name path : String}
    (allowed : basis.updatableRelationship node name path = .ok relationship) :
    name ∈ (basis.model.updatableConnections basis.features.relationshipProperties node).map
      fun entry => entry.1.name := by
  have found := updatableRelationship_ok allowed
  have inside := List.mem_of_find?_eq_some found
  have named : relationship.name = name := by simpa using List.find?_some found
  unfold updatableRelationship at allowed
  rw [found] at allowed
  split at allowed
  · cases allowed
  · next offered =>
    dsimp only at allowed
    split at allowed
    · next some_ =>
      obtain ⟨type, here⟩ := Option.isSome_iff_exists.mp some_
      rw [Bool.not_eq_true, Bool.not_eq_false'] at offered
      refine List.mem_map.mpr ⟨(relationship, type), ?_, named⟩
      refine List.mem_filterMap.mpr ⟨relationship, inside, ?_⟩
      simp [Model.offeredProperties?, offered, here]
    · cases allowed

/-- The connections of a node type that can be updated are those whose properties are offered. -/
theorem updatableRelationship_ok_iff {node : NodeType}
    (distinct : (node.relationships.map Relationship.name).Nodup) {name path : String} :
    (∃ relationship, basis.updatableRelationship node name path = .ok relationship) ↔
      name ∈ (basis.model.updatableConnections basis.features.relationshipProperties node).map
        fun entry => entry.1.name := by
  constructor
  · rintro ⟨relationship, allowed⟩
    exact mem_of_updatableRelationship allowed
  · intro member
    obtain ⟨⟨relationship, type⟩, among, rfl⟩ := List.mem_map.mp member
    obtain ⟨inside, offered, -⟩ := Model.mem_updatableConnections among
    obtain ⟨other, -, here⟩ := List.mem_filterMap.mp among
    obtain ⟨_, here, same⟩ := Option.map_eq_some_iff.mp here
    cases same
    have found : node.relationship? relationship.name = some relationship :=
      find?_name_of_mem distinct inside
    refine ⟨relationship, ?_⟩
    unfold updatableRelationship
    rw [found]
    simp_all [Model.offeredProperties?]

end Basis

end GraphGateway.Statement

namespace GraphGateway.Service

open Request Schema Settings Statement

/-- Whatever is given for the properties of a relationship is refused as such. -/
def Served.RefusesProperties (served : Served) (relationship : Relationship) : Prop :=
  ∀ given path creating, given.isNull = false →
    served.basis.planProperties relationship given path creating =
      Failure.invalid s!"'{relationship.name}' does not accept relationship properties" path

/-- The properties of a relationship are accepted exactly if each has the name of a field of their
input, if a creation has those that are required, and if an update makes none of them null. -/
structure Served.AcceptsProperties (served : Served) (relationship : Relationship)
    (type : PropertiesType) : Prop where
  creation : ∀ (entries : Entries Value) (path : String),
    (∃ accepted, served.basis.planProperties relationship (.object entries) path true =
        .ok accepted) ↔
      (∀ name ∈ entries.keys, name ∈ served.types.inputNames (propertiesInputName type.name)) ∧
        ∀ field ∈ type.fields, field.required = true → isGiven entries field.name = true
  change : ∀ (entries : Entries Value) (path : String),
    (∃ accepted, served.basis.planProperties relationship (.object entries) path false =
        .ok accepted) ↔
      (∀ name ∈ entries.keys, name ∈ served.types.inputNames (updateInputName type.name)) ∧
        ∀ field ∈ type.fields, field.required = true → (field.name, Value.null) ∉ entries

/-- Where the entries of a relationship have properties, these are accepted as their input says, and
elsewhere they are refused. -/
theorem Served.properties_agree {served : Served}
    (augmented : served.model.augmented served.features.relationshipProperties = .ok served.types)
    (built : served.types.build = .ok ()) (relationship : Relationship) :
    match served.model.offeredProperties? served.features.relationshipProperties relationship with
    | none => served.RefusesProperties relationship
    | some type => type ∈ served.model.properties ∧ relationship.properties = some type.name ∧
        served.AcceptsProperties relationship type := by
  cases found : served.model.offeredProperties? served.features.relationshipProperties
      relationship with
  | none => exact fun given path creating some_ => Basis.planProperties_refused found some_
  | some type =>
      have here := found
      unfold Model.offeredProperties? at here
      split at here
      · next offered =>
        have known := Model.properties_mem here
        obtain ⟨creation, change⟩ := Model.propertiesNames_eq augmented offered known
        have distinct : (type.fields.map PropertyField.name).Nodup := by
          have names := Model.offered_names_nodup (offered ▸ augmented) built _
            (Model.properties_offered known)
          rwa [definitionNames_eq] at names
        refine ⟨known, Model.properties_name here, ⟨fun entries path => ?_, fun entries path => ?_⟩⟩
        · rw [Basis.planProperties_object_ok_iff found, missingProperty?_none_iff, creation]
          simp
        · rw [Basis.planProperties_object_ok_iff found, nulledProperty?_none_iff distinct, change]
          simp
      · cases here

/-- The inputs of a served schema and the checks of what is planned accept the same keys, for every
node type and each of its relationships.

The input for the connections of a type is found through the argument of its update that takes it, and
not by its name.  Where the type has no connections to update, the input is not made and so has no
fields, but its name may be that of another one: the input for the entries of `Movie.actors` is named as
the one for the connections of a type `MovieActors` would be. -/
theorem Served.inputs_agree {document : Graphql.Document} {features : Features}
    {spareKey : List UInt8} {served : Served}
    (made : Served.ofDocument document features spareKey = .ok served) {node : NodeType}
    (known : node ∈ served.model.nodes) :
    (∀ (entries : Entries Value) (path : String),
      (∃ filter, readFilter node (.object entries) path = .ok filter) ↔
        ∀ name ∈ entries.keys, name ∈ served.types.inputNames (whereInputName node.name)) ∧
    (∀ (entries : Entries Value) (path : String),
      (do checkKeys node path true entries; checkRequired node path entries) = .ok () ↔
        (∀ name ∈ entries.keys, name ∈ served.types.inputNames (createInputName node.name)) ∧
          ∀ field ∈ node.fields, field.required = true → isGiven entries field.name = true) ∧
    (∀ (entries : Entries Value) (path : String), checkKeys node path false entries = .ok () ↔
      (∀ name ∈ entries.keys, name ∈ served.types.inputNames (updateInputName node.name)) ∧
        ∀ field ∈ node.fields, field.required = true → (field.name, Value.null) ∉ entries) ∧
    (∀ relationship ∈ node.relationships, ∀ ending ∈ ["CreateFieldInput", "ConnectFieldInput"],
      if "properties" ∈ served.types.inputNames
          (relationshipInputName node.name relationship.name ending) then
        ∃ type ∈ served.model.properties, relationship.properties = some type.name ∧
          served.AcceptsProperties relationship type
      else served.RefusesProperties relationship) ∧
    ∀ name path,
      (∃ relationship, served.basis.updatableRelationship node name path = .ok relationship) ↔
        ∃ input, served.types.argumentType? (updateFieldName node.name) "updateConnection" =
            some input ∧ input.name = updateConnectionInputName node.name ∧
          name ∈ input.fields.map Graphql.FieldDefinition.name := by
  obtain ⟨-, -, -, -, same, augmented, built⟩ := Served.of_document made
  rw [← same] at augmented
  have names : (identifierName ::
      (node.fields.map PropertyField.name ++ node.relationships.map Relationship.name)).Nodup :=
    (Model.offered_names_nodup augmented built _ (Model.nodeDefinition_offered known)).sublist
      (Model.names_sublist_nodeDefinition _ node)
  refine ⟨fun entries path => ?_, fun entries path => ?_, fun entries path => ?_,
    fun relationship inside ending entry => ?_, fun name path => ?_⟩
  · rw [readFilter_object_ok_iff, Model.filterNames_eq augmented known]
    exact forall₂_congr fun name _ => isFilter_iff names
  · have keys : checkKeys node path true entries = .ok () ↔ _ := checkKeys_create_ok_iff
    have needed : checkRequired node path entries = .ok () ↔ _ := checkRequired_ok_iff
    rw [Model.creationNames_eq augmented known, ← keys, ← needed]
    constructor
    · intro checked
      obtain ⟨⟨⟩, first, second⟩ := Outcome.bind_ok_iff.mp checked
      exact ⟨first, second⟩
    · rintro ⟨first, second⟩
      exact Outcome.bind_ok_iff.mpr ⟨(), first, second⟩
  · rw [Model.changeNames_eq augmented built known]
    exact checkKeys_update_ok_iff names
  · have agree := Served.properties_agree augmented built relationship
    have either : ending = "CreateFieldInput" ∨ ending = "ConnectFieldInput" := by
      simpa using entry
    have offers := Model.entryNames_eq augmented known inside either
    cases found : served.model.offeredProperties? served.features.relationshipProperties
        relationship with
    | none =>
        rw [found] at agree offers
        rw [if_neg (by simp [offers])]
        exact agree
    | some type =>
        rw [found] at agree offers
        rw [if_pos (by simp [offers])]
        exact ⟨type, agree⟩
  · have distinct : (node.relationships.map Relationship.name).Nodup :=
      names.sublist ((List.sublist_append_right _ _).cons _)
    rw [Basis.updatableRelationship_ok_iff distinct, Model.connectionInput_eq augmented built known]
    have same : served.basis.model.updatableConnections
        served.basis.features.relationshipProperties node =
          served.model.updatableConnections served.features.relationshipProperties node := rfl
    rw [same]
    split
    · next none_ =>
      rw [List.isEmpty_iff.mp none_]
      simp
    · simp

/-- Whether the inputs of the staged movies are as they are declared. -/
def stageInputs : Bool :=
  stage.model.nodes.any fun node => node.name == "Movie" &&
    stage.types.inputNames (whereInputName node.name) == ["id", "title"] &&
    stage.types.inputNames (createInputName node.name) == ["id", "title", "actors"] &&
    stage.types.inputNames (updateInputName node.name) == ["title", "actors"]

theorem inputs_agree_staged :
    ∃ movie ∈ stage.model.nodes, movie.name = "Movie" ∧
      (∀ (entries : Entries Value) (path : String),
        (∃ filter, readFilter movie (.object entries) path = .ok filter) ↔
          ∀ name ∈ entries.keys, name ∈ ["id", "title"]) ∧
      (∀ (entries : Entries Value) (path : String), checkKeys movie path false entries = .ok () ↔
        (∀ name ∈ entries.keys, name ∈ ["title", "actors"]) ∧
          ∀ field ∈ movie.fields, field.required = true → (field.name, Value.null) ∉ entries) ∧
      ∀ path, ∃ relationship,
        stage.basis.updatableRelationship movie "actors" path = .ok relationship := by
  have told : stageInputs = true := by
    decide +kernel
  obtain ⟨movie, known, told⟩ := List.any_eq_true.mp told
  simp only [Bool.and_eq_true, beq_iff_eq] at told
  obtain ⟨⟨⟨named, filter⟩, -⟩, change⟩ := told
  obtain ⟨filters, -, changes, -, connections⟩ := Served.inputs_agree stage_made known
  rw [filter] at filters
  rw [change] at changes
  refine ⟨movie, known, named, filters, changes, fun path => (connections "actors" path).mpr ?_⟩
  rw [named]
  have offered : ((stage.types.argumentType? (updateFieldName "Movie") "updateConnection").any
      fun input => input.name == updateConnectionInputName "Movie" &&
        (input.fields.map Graphql.FieldDefinition.name).contains "actors") = true := by
    decide +kernel
  obtain ⟨input, found, told⟩ := (Option.any_eq_true _ _).mp offered
  rw [Bool.and_eq_true] at told
  exact ⟨input, found, eq_of_beq told.1, List.contains_iff_mem.mp told.2⟩

end GraphGateway.Service
