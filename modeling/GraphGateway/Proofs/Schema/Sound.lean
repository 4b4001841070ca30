import Mathlib.Data.List.Nodup
import GraphGateway.Proofs.Outcome
import GraphGateway.Service.Served

/-!
Sound models.  In the model of a served schema the names of a node type are all different, every
property is stored under its own name, and every relationship leads to a node type that is there.
The names come from the type system, which could not be built otherwise, and the rest from the
reading of the document.
-/
namespace GraphGateway.Schema

open Graphql (TypeDefinition TypeSystem distinct)

theorem distinct_iff (names : List String) : distinct names = true ↔ names.Nodup := by
  induction names with
  | nil => simp [distinct]
  | cons name rest ih => simp [distinct, ih]

/-- What planning relies on in a model. -/
structure Model.IsSound (model : Model) : Prop where
  nodeNames : ∀ node ∈ model.nodes, (identifierName ::
    (node.fields.map PropertyField.name ++ node.relationships.map Relationship.name)).Nodup
  propertyNames : ∀ type ∈ model.properties, (type.fields.map PropertyField.name).Nodup
  nodeStored : ∀ node ∈ model.nodes, ∀ field ∈ node.fields, field.stored = field.name
  propertyStored : ∀ type ∈ model.properties, ∀ field ∈ type.fields, field.stored = field.name
  related : ∀ node ∈ model.nodes, ∀ relationship ∈ node.relationships,
    ∃ related, model.related relationship = .ok related

/-- A model in which the node type that a relationship leads to is found. -/
def Model.FindsRelated (model : Model) : Prop :=
  ∀ node ∈ model.nodes, ∀ relationship ∈ node.relationships,
    ∃ related, model.related relationship = .ok related

/-- What is found under a name bears it. -/
theorem name_of_find? {α : Type} {name : α → String} {items : List α} {key : String} {item : α}
    (found : items.find? (name · == key) = some item) : name item = key :=
  eq_of_beq (List.find?_some (p := (name · == key)) found)

/-- Of items with different names, each is found under its name. -/
theorem find?_name_of_mem {α : Type} {name : α → String} {items : List α}
    (distinct : (items.map name).Nodup) {item : α} (member : item ∈ items) :
    items.find? (name · == name item) = some item := by
  induction items with
  | nil => cases member
  | cons first rest ih =>
      rw [List.map_cons, List.nodup_cons] at distinct
      rcases List.mem_cons.mp member with rfl | later
      · exact List.find?_cons_of_pos (beq_self_eq_true (name item))
      · have apart : name first ≠ name item := by
          intro same
          exact distinct.1 (same ▸ List.mem_map_of_mem (f := name) later)
        rw [List.find?_cons_of_neg (by simpa using apart)]
        exact ih distinct.2 later

theorem Model.node_mem {model : Model} {name : String} {node : NodeType}
    (found : model.node name = .ok node) : node ∈ model.nodes := by
  unfold Model.node Model.node? at found
  split at found
  · next first here =>
    cases found
    exact List.mem_reverse.mp (List.mem_of_find?_eq_some here)
  · cases found

theorem Model.properties_mem {model : Model} {relationship : Relationship} {type : PropertiesType}
    (found : model.propertiesOf? relationship = some type) : type ∈ model.properties := by
  obtain ⟨name, -, here⟩ := Option.bind_eq_some_iff.mp found
  exact List.mem_reverse.mp (List.mem_of_find?_eq_some here)

/-- A property has neither the name of the identifier nor that of a relationship, where the names of
a node type are all different. -/
theorem NodeType.field?_of_mem {node : NodeType}
    (names : (identifierName ::
      (node.fields.map PropertyField.name ++ node.relationships.map Relationship.name)).Nodup)
    {field : PropertyField} (member : field ∈ node.fields) :
    field.name ≠ identifierName ∧ node.relationship? field.name = none ∧
      node.field? field.name = some field := by
  rw [List.nodup_cons, List.mem_append, List.nodup_append] at names
  obtain ⟨outside, fields, -, apart⟩ := names
  have inside := List.mem_map_of_mem (f := PropertyField.name) member
  have other : field.name ≠ identifierName := fun same => outside (.inl (same ▸ inside))
  refine ⟨other, ?_, ?_⟩
  · refine List.find?_eq_none.mpr ?_
    intro relationship among same
    exact apart field.name inside relationship.name
      (List.mem_map_of_mem (f := Relationship.name) among) (eq_of_beq same).symm
  · unfold NodeType.field?
    rw [if_neg other]
    exact find?_name_of_mem fields member

namespace Model.IsSound

variable {model : Model}

theorem properties_field? (sound : model.IsSound) {type : PropertiesType}
    (known : type ∈ model.properties) {field : PropertyField} (member : field ∈ type.fields) :
    type.field? field.name = some field :=
  find?_name_of_mem (sound.propertyNames type known) member

theorem node_field? (sound : model.IsSound) {node : NodeType} (known : node ∈ model.nodes)
    {field : PropertyField} (member : field ∈ node.fields) :
    field.name ≠ identifierName ∧ node.relationship? field.name = none ∧
      node.field? field.name = some field :=
  NodeType.field?_of_mem (sound.nodeNames node known) member

end Model.IsSound

namespace Registry

variable {reserved : List String}

/-- A type that is accepted without a conflict is there, and so are those before it. -/
theorem accept_of_conflicts_nil {registry : Registry} {offer : Offer}
    (peaceful : (registry.accept reserved offer).conflicts = []) :
    registry.conflicts = [] ∧ offer.type ∈ (registry.accept reserved offer).types ∧
      ∀ type ∈ registry.types, type ∈ (registry.accept reserved offer).types := by
  unfold accept at peaceful ⊢
  dsimp only at peaceful ⊢
  split at peaceful
  · simp at peaceful
  · next free =>
    rw [if_neg free]
    cases found : registry.type? offer.type.name with
    | none =>
        simp only [found] at peaceful
        refine ⟨peaceful, ?_, ?_⟩
        · exact List.mem_append_right _ (List.mem_singleton_self _)
        · intro type member
          exact List.mem_append_left _ member
    | some type =>
        simp only [found] at peaceful ⊢
        by_cases same : type = offer.type
        · rw [if_pos same] at peaceful ⊢
          refine ⟨peaceful, ?_, fun _ => id⟩
          rw [← same]
          exact List.mem_of_find?_eq_some found
        · rw [if_neg same] at peaceful
          simp at peaceful

theorem foldl_accept_of_conflicts_nil {offers : List Offer} {registry : Registry}
    (peaceful : (offers.foldl (accept reserved) registry).conflicts = []) :
    registry.conflicts = [] ∧
      (∀ type ∈ registry.types, type ∈ (offers.foldl (accept reserved) registry).types) ∧
      ∀ offer ∈ offers, offer.type ∈ (offers.foldl (accept reserved) registry).types := by
  induction offers generalizing registry with
  | nil => exact ⟨peaceful, fun _ => id, fun _ member => absurd member List.not_mem_nil⟩
  | cons offer rest ih =>
      obtain ⟨middle, kept, later⟩ := ih peaceful
      obtain ⟨before, accepted, old⟩ := accept_of_conflicts_nil middle
      refine ⟨before, fun type member => kept type (old type member), ?_⟩
      intro other member
      rcases List.mem_cons.mp member with rfl | left
      · exact kept _ accepted
      · exact later other left

end Registry

namespace Model

variable {model : Model} {types : TypeSystem}

/-- The type system of a model has every type that the model offers. -/
theorem offered_mem_of_augmented {paged : Bool} (augmented : model.augmented paged = .ok types) :
    ∀ offer ∈ model.offers paged, offer.type ∈ types.definitions := by
  unfold Model.augmented at augmented
  dsimp only at augmented
  split at augmented
  · next peaceful =>
    cases augmented
    exact (Registry.foldl_accept_of_conflicts_nil (List.isEmpty_iff.mp peaceful)).2.2
  · cases augmented

/-- The fields of a type that is offered to a type system that can be built have different names. -/
theorem offered_names_nodup {paged : Bool} (augmented : model.augmented paged = .ok types)
    (built : types.build = .ok ()) :
    ∀ offer ∈ model.offers paged, (offer.type.fields.map Graphql.FieldDefinition.name).Nodup := by
  intro offer member
  have wellNamed : types.isWellNamed offer.type = true := by
    unfold TypeSystem.build at built
    split at built
    · cases built
    · split at built
      · next legal =>
        rw [Bool.and_eq_true] at legal
        exact List.all_eq_true.mp legal.1 _ (offered_mem_of_augmented augmented offer member)
      · cases built
  unfold TypeSystem.isWellNamed at wellNamed
  simp only [Bool.and_eq_true] at wellNamed
  exact (distinct_iff _).mp wellNamed.1.1.1

/-- Node types whose type system can be built have different names, as the root fields that list
them do. -/
theorem nodeNames_nodup {paged : Bool} (augmented : model.augmented paged = .ok types)
    (built : types.build = .ok ()) : (model.nodes.map NodeType.name).Nodup := by
  have query : objectOffer TypeSystem.queryName
      (model.nodes.map listField ++ if paged then [lookupField] else []) ∈ model.rootOffers paged :=
    List.mem_cons_self ..
  have names := offered_names_nodup augmented built _ (List.mem_append_right _ query)
  have listed : ((model.nodes.map listField).map Graphql.FieldDefinition.name).Sublist
      ((model.nodes.map listField ++ if paged then [lookupField] else []).map
        Graphql.FieldDefinition.name) := (List.sublist_append_left _ _).map _
  have plurals : (model.nodes.map NodeType.name).map pluralFieldName =
      (model.nodes.map listField).map Graphql.FieldDefinition.name := by
    simp only [List.map_map, Function.comp_def, listField]
  exact .of_map pluralFieldName (plurals ▸ names.sublist listed)

theorem nodeDefinition_offered {paged : Bool} {node : NodeType} (member : node ∈ model.nodes) :
    { type := nodeDefinition paged node, declared := true } ∈ model.offers paged := by
  unfold Model.offers
  refine List.mem_append_left _ (List.mem_append_right _ (List.mem_flatMap.mpr ⟨node, member, ?_⟩))
  simp [Model.nodeOffers]

theorem properties_offered {type : PropertiesType} (member : type ∈ model.properties) :
    { type :=
        { kind := .interface, name := type.name,
          fields := type.fields.map PropertyField.definition }
      declared := true } ∈ model.offers true := by
  unfold Model.offers
  refine List.mem_append_left _ (List.mem_append_left _ (List.mem_append_right _ ?_))
  rw [if_pos rfl]
  exact List.mem_flatMap.mpr ⟨type, member, List.mem_cons_self ..⟩

/-- The names of properties and relationships are among those of the fields of the object type. -/
theorem names_sublist_nodeDefinition (paged : Bool) (node : NodeType) :
    (identifierName ::
      (node.fields.map PropertyField.name ++ node.relationships.map Relationship.name)).Sublist
      ((nodeDefinition paged node).fields.map Graphql.FieldDefinition.name) := by
  have properties : (node.fields.map PropertyField.definition).map Graphql.FieldDefinition.name =
      node.fields.map PropertyField.name := by
    rw [List.map_map]
    rfl
  have relationships : (node.relationships.map Relationship.name).Sublist
      ((node.relationships.flatMap (relationshipFields paged node)).map
        Graphql.FieldDefinition.name) := by
    induction node.relationships with
    | nil => exact .slnil
    | cons relationship rest ih =>
        rw [List.flatMap_cons, List.map_append, List.map_cons]
        have first : [relationship.name].Sublist
            ((relationshipFields paged node relationship).map Graphql.FieldDefinition.name) :=
          List.singleton_sublist.mpr (by simp [relationshipFields])
        exact first.append ih
  unfold nodeDefinition
  rw [List.map_cons, List.map_append, properties]
  exact (relationships.append_left _).cons_cons _

end Model

section

variable (names : DeclaredNames) (typeName : String)

/-- A relationship is only read if it leads to a node type that is declared. -/
theorem FieldRole.ofRelationship_relationship {fieldName : String} {type : TypeReference}
    {mark : Graphql.Directive} {relationship : Relationship}
    (role : FieldRole.ofRelationship names typeName fieldName type mark =
      .relationship relationship) : relationship.relatedType ∈ names.nodes := by
  unfold FieldRole.ofRelationship at role
  split at role
  · split at role
    · cases role
    · dsimp only at role
      split at role
      · cases role
      · by_cases known : names.nodes.contains type.name = true
        · have same : relationship.relatedType = type.name := by
            split at role <;> cases role <;> rfl
          rw [same]
          exact List.contains_iff_mem.mp known
        · rw [if_neg known] at role
          split at role
          · cases role
          · cases role
          · next none_ => cases none_
          · next none_ => cases none_
          · cases role
  · cases role

theorem FieldRole.ofRelationship_not_property {fieldName : String} {type : TypeReference}
    {mark : Graphql.Directive} {field : PropertyField} :
    FieldRole.ofRelationship names typeName fieldName type mark ≠ .property field := by
  intro role
  unfold FieldRole.ofRelationship at role
  split at role
  · split at role
    · cases role
    · dsimp only at role
      split at role
      · cases role
      · split at role <;> cases role
  · cases role

theorem FieldRole.ofLeaf_property {fieldName : String} {type : TypeReference}
    {field : PropertyField}
    (role : FieldRole.ofLeaf names typeName fieldName type = .property field) :
    field.stored = field.name := by
  unfold FieldRole.ofLeaf at role
  split at role
  · cases role
    rfl
  · cases role

theorem FieldReading.property?_eq_some {reading : FieldReading} {field : PropertyField}
    (found : reading.property? = some field) : reading.role = .property field := by
  unfold FieldReading.property? at found
  split at found
  · next role =>
    cases found
    exact role
  · cases found

theorem FieldReading.relationship?_eq_some {reading : FieldReading} {relationship : Relationship}
    (found : reading.relationship? = some relationship) :
    reading.role = .relationship relationship := by
  unfold FieldReading.relationship? at found
  split at found
  · next role =>
    cases found
    exact role
  · cases found

theorem FieldReading.stored_of_nodeField {declaration : Graphql.FieldDeclaration}
    {field : PropertyField}
    (found : (FieldReading.ofNodeField names typeName declaration).property? = some field) :
    field.stored = field.name := by
  have role := FieldReading.property?_eq_some found
  unfold FieldReading.ofNodeField at role
  split at role
  · cases role
  · dsimp only at role
    split at role
    · cases role
    · split at role
      · exact absurd role (FieldRole.ofRelationship_not_property names typeName)
      · split at role
        · cases role
        · exact FieldRole.ofLeaf_property names typeName role

theorem FieldReading.stored_of_interfaceField {declaration : Graphql.FieldDeclaration}
    {field : PropertyField}
    (found : (FieldReading.ofInterfaceField names typeName declaration).property? = some field) :
    field.stored = field.name := by
  have role := FieldReading.property?_eq_some found
  unfold FieldReading.ofInterfaceField at role
  split at role
  · cases role
  · exact FieldRole.ofLeaf_property names typeName role

theorem FieldReading.related_of_nodeField {declaration : Graphql.FieldDeclaration}
    {relationship : Relationship}
    (found : (FieldReading.ofNodeField names typeName declaration).relationship? =
      some relationship) : relationship.relatedType ∈ names.nodes := by
  have role := FieldReading.relationship?_eq_some found
  unfold FieldReading.ofNodeField at role
  split at role
  · cases role
  · dsimp only at role
    split at role
    · cases role
    · split at role
      · exact FieldRole.ofRelationship_relationship names typeName role
      · split at role
        · cases role
        · unfold FieldRole.ofLeaf at role
          split at role <;> cases role

end

theorem FieldRole.ofRelationship_name {names : DeclaredNames} {typeName fieldName : String}
    {type : TypeReference} {mark : Graphql.Directive} {relationship : Relationship}
    (role : FieldRole.ofRelationship names typeName fieldName type mark =
      .relationship relationship) : relationship.name = fieldName := by
  unfold FieldRole.ofRelationship at role
  split at role
  · split at role
    · cases role
    · dsimp only at role
      split at role
      · cases role
      · split at role <;> cases role <;> rfl
  · cases role

/-- A relationship has the name of its field. -/
theorem FieldReading.name_of_nodeField {names : DeclaredNames} {typeName : String}
    {declaration : Graphql.FieldDeclaration} {relationship : Relationship}
    (found : (FieldReading.ofNodeField names typeName declaration).relationship? =
      some relationship) : relationship.name = declaration.name := by
  have role := FieldReading.relationship?_eq_some found
  unfold FieldReading.ofNodeField at role
  split at role
  · cases role
  · dsimp only at role
    split at role
    · cases role
    · split at role
      · exact FieldRole.ofRelationship_name role
      · split at role
        · cases role
        · unfold FieldRole.ofLeaf at role
          split at role <;> cases role

theorem Model.related_of_mem {model : Model} {relationship : Relationship}
    (member : relationship.relatedType ∈ model.nodes.map NodeType.name) :
    ∃ related, model.related relationship = .ok related := by
  obtain ⟨node, inside, named⟩ := List.mem_map.mp member
  have found : (model.node? relationship.relatedType).isSome = true := by
    unfold Model.node?
    rw [List.find?_isSome]
    exact ⟨node, List.mem_reverse.mpr inside, by simp [named]⟩
  obtain ⟨related, here⟩ := Option.isSome_iff_exists.mp found
  refine ⟨related, ?_⟩
  unfold Model.related Model.node
  rw [here]

end GraphGateway.Schema

namespace GraphGateway.Service

open Schema

/-- The model of a document stores properties under their names, and its relationships lead to node
types of it. -/
theorem Declared.facts {document : Graphql.Document} {declared : Declared}
    (read : Declared.ofDocument? document = some declared) :
    (∀ node ∈ declared.model.nodes, ∀ field ∈ node.fields, field.stored = field.name) ∧
      (∀ type ∈ declared.model.properties, ∀ field ∈ type.fields, field.stored = field.name) ∧
      ∀ node ∈ declared.model.nodes, ∀ relationship ∈ node.relationships,
        ∃ related, declared.model.related relationship = .ok related := by
  unfold Declared.ofDocument? at read
  dsimp only at read
  split at read
  · cases read
  · cases read
    refine ⟨?_, ?_, ?_⟩
    · intro node member field inside
      simp only [List.map_map, List.mem_map, Function.comp] at member
      obtain ⟨declaration, -, rfl⟩ := member
      obtain ⟨reading, readingMember, found⟩ := List.mem_filterMap.mp inside
      obtain ⟨fieldDeclaration, -, rfl⟩ := List.mem_map.mp readingMember
      exact FieldReading.stored_of_nodeField _ _ found
    · intro type member field inside
      simp only [List.map_map, List.mem_map, Function.comp] at member
      obtain ⟨declaration, -, rfl⟩ := member
      obtain ⟨reading, readingMember, found⟩ := List.mem_filterMap.mp inside
      obtain ⟨fieldDeclaration, -, rfl⟩ := List.mem_map.mp readingMember
      exact FieldReading.stored_of_interfaceField _ _ found
    · intro node member relationship inside
      simp only [List.map_map, List.mem_map, Function.comp] at member
      obtain ⟨declaration, -, rfl⟩ := member
      obtain ⟨reading, readingMember, found⟩ := List.mem_filterMap.mp inside
      obtain ⟨fieldDeclaration, -, rfl⟩ := List.mem_map.mp readingMember
      have known := FieldReading.related_of_nodeField _ _ found
      refine Model.related_of_mem ?_
      simpa [Declared.names, List.map_map, NodeType.ofReadings, Function.comp_def] using known

/-- What a served schema is made from: a document without problems, whose model grows into a type
system that can be built. -/
theorem Served.of_document {document : Graphql.Document} {features : Settings.Features}
    {spareKey : List UInt8} {served : Served}
    (made : Served.ofDocument document features spareKey = .ok served) :
    ∃ declared, Declared.ofDocument? document = some declared ∧
      Served.problemsOf declared features = .ok [] ∧ served.model = declared.model ∧
      served.features = features ∧
      served.model.augmented features.relationshipProperties = .ok served.types ∧
      served.types.build = .ok () := by
  unfold Served.ofDocument at made
  split at made
  · cases made
  · next declared read =>
    obtain ⟨problems, found, grown⟩ := Outcome.bind_ok_iff.mp made
    split at grown
    · obtain ⟨types, augmented, built⟩ := Outcome.bind_ok_iff.mp grown
      obtain ⟨⟨⟩, legal, done⟩ := Outcome.bind_ok_iff.mp built
      cases done
      rw [Outcome.mapError_ok_iff] at augmented legal
      exact ⟨declared, read, found, rfl, rfl, augmented, legal⟩
    · cases grown

/-- What selections are planned against, in terms of what is read and of the settings. -/
theorem Served.basis_of_document {document : Graphql.Document} {features : Settings.Features}
    {spareKey : List UInt8} {served : Served}
    (made : Served.ofDocument document features spareKey = .ok served) :
    served.basis = ⟨served.model, features, codecFor features spareKey⟩ := by
  unfold Served.ofDocument at made
  split at made
  · cases made
  · obtain ⟨problems, -, made⟩ := Outcome.bind_ok_iff.mp made
    split at made
    · obtain ⟨types, -, made⟩ := Outcome.bind_ok_iff.mp made
      obtain ⟨⟨⟩, -, made⟩ := Outcome.bind_ok_iff.mp made
      cases made
      rfl
    · cases made

theorem Served.basis_of_text {text : String} {features : Settings.Features}
    {spareKey : List UInt8} {served : Served} (made : Served.ofText text features spareKey = .ok served) :
    served.basis = ⟨served.model, features, codecFor features spareKey⟩ := by
  obtain ⟨document, -, made⟩ := Outcome.bind_ok_iff.mp made
  exact Served.basis_of_document made

theorem Served.features_of_text {text : String} {features : Settings.Features}
    {spareKey : List UInt8} {served : Served}
    (made : Served.ofText text features spareKey = .ok served) : served.features = features :=
  congrArg Statement.Basis.features (Served.basis_of_text made)

/-- The model of a served schema with relationship properties is sound, and the features are those
that were asked for. -/
theorem Served.sound_of_document {document : Graphql.Document} {features : Settings.Features}
    {spareKey : List UInt8} {served : Served}
    (made : Served.ofDocument document features spareKey = .ok served)
    (offered : features.relationshipProperties = true) :
    served.model.IsSound ∧ served.features = features := by
  unfold Served.ofDocument at made
  split at made
  · cases made
  · next declared read =>
    obtain ⟨problems, -, grown⟩ := Outcome.bind_ok_iff.mp made
    split at grown
    · obtain ⟨types, augmented, built⟩ := Outcome.bind_ok_iff.mp grown
      obtain ⟨⟨⟩, legal, done⟩ := Outcome.bind_ok_iff.mp built
      cases done
      rw [Outcome.mapError_ok_iff] at augmented legal
      rw [offered] at augmented
      obtain ⟨nodeStored, propertyStored, related⟩ := Declared.facts read
      have names := Model.offered_names_nodup augmented legal
      refine ⟨⟨?_, ?_, nodeStored, propertyStored, related⟩, rfl⟩
      · intro node member
        exact (names _ (Model.nodeDefinition_offered member)).sublist
          (Model.names_sublist_nodeDefinition true node)
      · intro type member
        have nodup := names _ (Model.properties_offered member)
        rw [List.map_map] at nodup
        exact nodup
    · cases grown

end GraphGateway.Service
