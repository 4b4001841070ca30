import Mathlib.Data.List.Nodup
import GraphGateway.Proofs.Schema.Offered

/-!
Types that can be spelt.  Each type that a model offers has something between its braces, told once
each, exactly if the model says enough and its names stay apart from those that are made: the
identifier and the connections of a node type, the cursor and the node of an edge, and the plurals
of all node types.  The registry only compares whole types, so none of this is a conflict to it.
-/
namespace GraphGateway.Graphql

/-- Whether a type has something between its braces, and no field twice. -/
structure TypeDefinition.IsSpelt (type : TypeDefinition) : Prop where
  inside : type.kind ≠ .scalar → type.fields ≠ [] ∨ type.values ≠ []
  names : (type.fields.map FieldDefinition.name).Nodup

end GraphGateway.Graphql

namespace GraphGateway.Schema

open Graphql (FieldDefinition TypeDefinition TypeSystem)

/-- The names of the fields of an object type: the identifier, the properties, and each relationship
with its connection. -/
def NodeType.fieldNames (paged : Bool) (node : NodeType) : List String :=
  identifierName :: (node.fields.map PropertyField.name ++
    node.relationships.flatMap fun relationship =>
      relationship.name :: if paged then [relationship.name ++ connectionEnding] else [])

/-- What a model has to say for its types to be spelt. -/
structure Model.IsSpellable (model : Model) (paged : Bool) : Prop where
  /-- Something to ask for. -/
  entry : paged = true ∨ model.nodes ≠ []
  enums : ∀ enum ∈ model.enums, enum.values ≠ []
  properties : paged = true → ∀ type ∈ model.properties,
    type.fields ≠ [] ∧ (type.fields.map PropertyField.name).Nodup
  edges : paged = true → ∀ node ∈ model.nodes, ∀ relationship ∈ node.relationships,
    ∀ type, model.propertiesOf? relationship = some type →
      ∀ field ∈ type.fields, field.name ≠ "cursor" ∧ field.name ≠ "node"
  nodes : ∀ node ∈ model.nodes, (node.fieldNames paged).Nodup
  plurals : (model.nodes.map fun node => pluralFieldName node.name).Nodup

/-- A plural ends in an `s`. -/
theorem pluralize_ends (name : String) :
    ∃ stem : List Char, (pluralize name).toList = stem ++ ['s'] := by
  unfold pluralize
  dsimp only
  have ends (stem ending : String) (before : List Char) (last : ending.toList = before ++ ['s']) :
      ∃ chars : List Char, (stem ++ ending).toList = chars ++ ['s'] := by
    refine ⟨stem.toList ++ before, ?_⟩
    rw [String.toList_append, last, List.append_assoc]
  split
  · split
    · exact ends _ "ies" ['i', 'e'] rfl
    · exact ends _ "s" [] rfl
  · exact ends _ "es" ['e'] rfl
  · exact ends _ "es" ['e'] rfl
  · exact ends _ "es" ['e'] rfl
  · exact ends _ "es" ['e'] rfl
  · exact ends _ "es" ['e'] rfl
  · exact ends _ "s" [] rfl

theorem lowerFirst_ne_node {name : String} {stem : List Char}
    (ends : name.toList = stem ++ ['s']) : lowerFirst name ≠ "node" := by
  intro same
  have chars := congrArg String.toList same
  unfold lowerFirst at chars
  rw [ends] at chars
  cases stem with
  | nil => exact absurd chars (by decide)
  | cons first rest =>
      have last := congrArg List.getLast? chars
      rw [List.cons_append] at last
      simp [← List.append_assoc] at last

theorem pluralFieldName_ne_node (typeName : String) : pluralFieldName typeName ≠ "node" := by
  obtain ⟨stem, ends⟩ := pluralize_ends typeName
  exact lowerFirst_ne_node ends

theorem createFieldName_ne_updateFieldName (one other : String) :
    createFieldName one ≠ updateFieldName other := by
  intro same
  have chars := congrArg String.toList same
  unfold createFieldName updateFieldName at chars
  rw [String.toList_append, String.toList_append] at chars
  exact absurd (List.cons.inj chars).1 (by decide)

/-- Fields that create or update nodes of different plurals have different names. -/
theorem mutationNames_apart {one other : String}
    (apart : pluralFieldName one ≠ pluralFieldName other) :
    createFieldName one ≠ createFieldName other ∧ updateFieldName one ≠ updateFieldName other := by
  have plurals : pluralize one ≠ pluralize other := fun same => apart (congrArg lowerFirst same)
  unfold createFieldName updateFieldName
  constructor
  · exact fun same => plurals (String.append_right_inj _ |>.mp same)
  · exact fun same => plurals (String.append_right_inj _ |>.mp same)

section

variable {fields : List PropertyField} {node : NodeType} {paged : Bool}

theorem definitionNames_eq (fields : List PropertyField) :
    (fields.map PropertyField.definition).map FieldDefinition.name =
      fields.map PropertyField.name := by
  rw [List.map_map]
  rfl

theorem optionalNames_eq (fields : List PropertyField) :
    (fields.map PropertyField.optionalDefinition).map FieldDefinition.name =
      fields.map PropertyField.name := by
  rw [List.map_map]
  rfl

theorem relationshipInputNames_eq (node : NodeType) :
    (Model.relationshipInputs node).map FieldDefinition.name =
      node.relationships.map Relationship.name := by
  unfold Model.relationshipInputs
  rw [List.map_map]
  rfl

theorem nodeDefinition_fieldNames (paged : Bool) (node : NodeType) :
    (Model.nodeDefinition paged node).fields.map FieldDefinition.name = node.fieldNames paged := by
  have relationships : (node.relationships.flatMap (Model.relationshipFields paged node)).map
      FieldDefinition.name = node.relationships.flatMap fun relationship =>
        relationship.name :: if paged then [relationship.name ++ connectionEnding] else [] := by
    rw [List.map_flatMap]
    refine congrArg (List.flatMap · node.relationships) (funext fun relationship => ?_)
    cases paged <;> rfl
  unfold Model.nodeDefinition NodeType.fieldNames
  rw [List.map_cons, List.map_append, definitionNames_eq, relationships]
  rfl

/-- The names of properties and relationships stay apart where those of all fields do. -/
theorem NodeType.inputNames_nodup (distinct : (node.fieldNames paged).Nodup) :
    (identifierName :: (node.fields.map PropertyField.name ++
      node.relationships.map Relationship.name)).Nodup :=
  distinct.sublist (nodeDefinition_fieldNames paged node ▸
    Model.names_sublist_nodeDefinition paged node)

end

namespace Model

variable {model : Model} {paged : Bool} {types : TypeSystem} {type : TypeDefinition}

theorem updatableConnections_sublist (model : Model) (paged : Bool) (node : NodeType) :
    ((model.updatableConnections paged node).map fun entry => entry.1.name).Sublist
      (node.relationships.map Relationship.name) := by
  unfold updatableConnections
  induction node.relationships with
  | nil => exact .slnil
  | cons relationship rest ih =>
      rw [List.filterMap_cons]
      cases model.offeredProperties? paged relationship with
      | none => exact ih.cons _
      | some properties => exact ih.cons_cons _

theorem queryNames_eq (model : Model) (paged : Bool) :
    (model.nodes.map listField ++ if paged then [lookupField] else []).map FieldDefinition.name =
      (model.nodes.map fun node => pluralFieldName node.name) ++
        if paged then ["node"] else [] := by
  have lookup : (if paged then [lookupField] else []).map FieldDefinition.name =
      if paged then ["node"] else [] := by
    cases paged <;> rfl
  rw [List.map_append, lookup]
  simp only [List.map_map, Function.comp_def, listField]

namespace IsSpellable

theorem properties_spelt (spellable : model.IsSpellable paged) (offered : paged = true)
    {properties : PropertiesType} (declared : properties ∈ model.properties) {offer : Offer}
    (member : offer ∈ properties.offers) : offer.type.IsSpelt := by
  obtain ⟨inside, names⟩ := spellable.properties offered properties declared
  unfold PropertiesType.offers at member
  simp only [List.mem_cons, List.not_mem_nil, or_false] at member
  rcases member with rfl | rfl | rfl | rfl
  · exact ⟨fun _ => .inl (by simpa using inside), by rwa [definitionNames_eq]⟩
  · exact ⟨fun _ => .inl (by simpa [inputOffer] using inside),
      by rwa [inputOffer, definitionNames_eq]⟩
  · exact ⟨fun _ => .inl (by simpa [inputOffer] using inside),
      by rwa [inputOffer, optionalNames_eq]⟩
  · exact ⟨fun _ => .inl (by simpa [inputOffer] using inside),
      by rwa [inputOffer, optionalNames_eq]⟩

theorem connection_spelt (spellable : model.IsSpellable paged) (offered : paged = true)
    {node : NodeType} {relationship : Relationship} (declared : node ∈ model.nodes)
    (inside : relationship ∈ node.relationships) {offer : Offer}
    (member : offer ∈ model.connectionOffers node relationship) : offer.type.IsSpelt := by
  unfold connectionOffers at member
  simp only [List.mem_cons, List.not_mem_nil, or_false] at member
  rcases member with rfl | rfl
  · refine ⟨fun _ => .inl (by simp), ?_⟩
    rw [List.map_append]
    cases found : model.propertiesOf? relationship with
    | none => simp
    | some type =>
        have apart := spellable.edges offered node declared relationship inside type found
        have names := (spellable.properties offered type (properties_mem found)).2
        simp only [definitionNames_eq, List.map_cons, List.map_nil, List.cons_append,
          List.nil_append, List.nodup_cons, List.mem_cons, List.mem_map, not_or, not_exists,
          not_and]
        refine ⟨⟨by decide, ?_⟩, ?_, names⟩
        · exact fun field member => (apart field member).1
        · exact fun field member => (apart field member).2
  · exact ⟨fun _ => .inl (by simp [objectOffer]), by simp [objectOffer]⟩

theorem fieldInput_spelt {node : NodeType} {relationship : Relationship} {offer : Offer}
    (member : offer ∈ model.fieldInputOffers paged node relationship) : offer.type.IsSpelt := by
  unfold fieldInputOffers at member
  simp only [List.mem_cons, List.not_mem_nil, or_false] at member
  rcases member with rfl | rfl | rfl
  · cases found : model.offeredProperties? paged relationship <;>
      exact ⟨fun _ => .inl (by simp [inputOffer]), by simp [inputOffer]⟩
  · cases found : model.offeredProperties? paged relationship <;>
      exact ⟨fun _ => .inl (by simp [inputOffer]), by simp [inputOffer]⟩
  · exact ⟨fun _ => .inl (by simp [inputOffer]), by simp [inputOffer]⟩

theorem connectionChange_spelt (spellable : model.IsSpellable paged) {node : NodeType}
    (declared : node ∈ model.nodes) {offer : Offer}
    (member : offer ∈ model.updateConnectionOffers paged node) : offer.type.IsSpelt := by
  unfold updateConnectionOffers at member
  rcases List.mem_append.mp member with entry | whole
  · obtain ⟨⟨relationship, properties⟩, -, rfl⟩ := List.mem_map.mp entry
    exact ⟨fun _ => .inl (by simp [inputOffer]), by simp [inputOffer]⟩
  · split at whole
    · cases whole
    · next some_ =>
      cases List.mem_singleton.mp whole
      refine ⟨fun _ => .inl (by simpa [inputOffer] using some_), ?_⟩
      have shared := updatableConnections_sublist model paged node
      have names := (NodeType.inputNames_nodup (spellable.nodes node declared)).sublist
        ((shared.trans (List.sublist_append_right _ _)).trans (List.sublist_cons_self _ _))
      simpa [inputOffer, Function.comp_def] using names

theorem mutation_names (spellable : model.IsSpellable paged) :
    ((model.nodes.flatMap fun node => [createField node, model.updateField paged node]).map
      FieldDefinition.name).Nodup := by
  rw [List.map_flatMap, List.nodup_flatMap]
  constructor
  · intro node _
    simpa [createField, updateField] using createFieldName_ne_updateFieldName node.name node.name
  · refine (List.pairwise_map.mp spellable.plurals).imp ?_
    intro one other apart
    obtain ⟨creations, changes⟩ := mutationNames_apart apart
    have across := createFieldName_ne_updateFieldName other.name one.name
    have back := createFieldName_ne_updateFieldName one.name other.name
    simp [Function.onFun, createField, updateField, creations.symm, changes.symm, across, back.symm]

theorem query_names (spellable : model.IsSpellable paged) :
    ((model.nodes.map listField ++ if paged then [lookupField] else []).map
      FieldDefinition.name).Nodup := by
  rw [queryNames_eq]
  refine List.nodup_append.mpr ⟨spellable.plurals, by split <;> simp, ?_⟩
  intro name inside other last same
  have node_ : other = "node" := by
    split at last
    · exact List.mem_singleton.mp last
    · cases last
  obtain ⟨node, -, plural⟩ := List.mem_map.mp inside
  exact pluralFieldName_ne_node node.name (plural.trans (same.trans node_))

theorem root_spelt (spellable : model.IsSpellable paged) {offer : Offer}
    (member : offer ∈ model.rootOffers paged) : offer.type.IsSpelt := by
  unfold rootOffers at member
  rcases List.mem_cons.mp member with rfl | mutation
  · refine ⟨fun _ => .inl ?_, spellable.query_names⟩
    rcases spellable.entry with offered | some_
    · simp [objectOffer, offered]
    · simp [objectOffer, some_]
  · split at mutation
    · cases mutation
    · next some_ =>
      cases List.mem_singleton.mp mutation
      refine ⟨fun _ => .inl ?_, spellable.mutation_names⟩
      cases nodes : model.nodes with
      | nil => exact absurd (by simp [nodes]) some_
      | cons node rest => simp [objectOffer]

theorem spelt (spellable : model.IsSpellable paged) (offers : model.Offers paged type) :
    type.IsSpelt := by
  cases offers with
  | paging offered member =>
      simp only [pagingOffers, List.mem_cons, List.not_mem_nil, or_false] at member
      rcases member with rfl | rfl
      · exact ⟨fun _ => .inl (by simp), by decide⟩
      · exact ⟨fun _ => .inl (by simp [objectOffer]), by decide⟩
  | scalar => exact ⟨fun other => absurd rfl other, .nil⟩
  | enum declared => exact ⟨fun _ => .inr (spellable.enums _ declared), .nil⟩
  | properties offered declared member => exact spellable.properties_spelt offered declared member
  | connection offered declared inside member =>
      exact spellable.connection_spelt offered declared inside member
  | node declared =>
      refine ⟨fun _ => .inl (by simp [nodeDefinition]), ?_⟩
      rw [nodeDefinition_fieldNames]
      exact spellable.nodes _ declared
  | @filter node declared =>
      refine ⟨fun _ => .inl (by simp [whereOffer, inputOffer]), ?_⟩
      have names := NodeType.inputNames_nodup (spellable.nodes _ declared)
      simp only [whereOffer, inputOffer, List.map_cons, optionalNames_eq]
      refine names.sublist (List.Sublist.cons_cons _ ?_)
      exact (List.filter_sublist.map _).trans (List.sublist_append_left _ _)
  | fieldInput declared inside member => exact fieldInput_spelt member
  | creation declared =>
      refine ⟨fun _ => .inl (by simp), ?_⟩
      rw [List.map_cons, List.map_append, definitionNames_eq, relationshipInputNames_eq]
      exact NodeType.inputNames_nodup (spellable.nodes _ declared)
  | change declared updatable =>
      refine ⟨fun _ => .inl ?_, ?_⟩
      · intro none_
        have empty := List.append_eq_nil_iff.mp none_
        simp only [relationshipInputs, List.map_eq_nil_iff] at empty
        simp [isUpdatable, empty.1, empty.2] at updatable
      · rw [List.map_append, optionalNames_eq, relationshipInputNames_eq]
        exact (NodeType.inputNames_nodup (spellable.nodes _ declared)).of_cons
  | connectionChange declared member => exact spellable.connectionChange_spelt declared member
  | response declared member =>
      simp only [responseOffers, List.mem_cons, List.not_mem_nil, or_false] at member
      rcases member with rfl | rfl <;>
        exact ⟨fun _ => .inl (by simp [objectOffer]), by simp [objectOffer]⟩
  | root member => exact spellable.root_spelt member

/-- Types that are all spelt say what is asked of the model. -/
theorem of_spelt (spelt : ∀ type, model.Offers paged type → type.IsSpelt) :
    model.IsSpellable paged where
  entry := by
    have query := (spelt _ (.root (List.mem_cons_self ..))).inside (by simp [objectOffer])
    simp only [objectOffer, List.append_eq_nil_iff, List.map_eq_nil_iff, ne_eq, not_true,
      or_false] at query
    cases paged with
    | false => exact .inr fun none_ => query ⟨none_, rfl⟩
    | true => exact .inl rfl
  enums enum declared := by
    have inside := (spelt _ (.enum declared)).inside (by simp)
    simpa using inside
  properties offered type declared := by
    have interface := spelt _ (.properties offered declared (List.mem_cons_self ..))
    have inside := interface.inside (by simp)
    have names := interface.names
    rw [definitionNames_eq] at names
    exact ⟨by simpa using inside, names⟩
  edges offered node declared relationship inside type found field member := by
    have names := (spelt _ (.connection offered declared inside (List.mem_cons_self ..))).names
    simp only [found, definitionNames_eq, List.map_cons, List.cons_append, List.nil_append,
      List.nodup_cons, List.mem_cons, not_or] at names
    obtain ⟨⟨-, cursor⟩, node_, -⟩ := names
    have among := List.mem_map_of_mem (f := PropertyField.name) member
    exact ⟨fun same => cursor (same ▸ among), fun same => node_ (same ▸ among)⟩
  nodes node declared := by
    rw [← nodeDefinition_fieldNames]
    exact (spelt _ (.node declared)).names
  plurals := by
    have names := (spelt _ (.root (List.mem_cons_self ..))).names
    simp only [objectOffer, queryNames_eq] at names
    exact names.sublist (List.sublist_append_left _ _)

end IsSpellable

theorem spelt_iff (augmented : model.augmented paged = .ok types) :
    (∀ type ∈ types.definitions, type.IsSpelt) ↔ model.IsSpellable paged := by
  constructor
  · intro spelt
    exact .of_spelt fun type offers => spelt type ((mem_definitions_iff augmented).mpr offers)
  · intro spellable type member
    exact spellable.spelt ((mem_definitions_iff augmented).mp member)

end Model

end GraphGateway.Schema
