import GraphGateway.Proofs.Request.Level
import GraphGateway.Proofs.Schema.Legal

/-!
The types that requests are read against.  In a type system that is grown from a model and that can
be built and served, every made type is found under its name with the fields that it is made with,
and so is the type of every node that has not the name of a builtin scalar.
-/
namespace GraphGateway.Schema

open Graphql (FieldDefinition TypeDefinition TypeSystem isReservedName isStandardName namedType
  requiredList requiredType)

/-- A model with a type system that is grown from it and that can be built and served. -/
structure Model.IsGrown (model : Model) (paged : Bool) (types : TypeSystem) : Prop where
  linked : model.IsLinked
  augmented : model.augmented paged = .ok types
  built : types.build = .ok ()
  servable : types.isServable = true

namespace Model

theorem exists_node {model : Model} {name : String}
    (known : ∃ node ∈ model.nodes, node.name = name) : ∃ node, model.node name = .ok node := by
  obtain ⟨other, member, same⟩ := known
  have found : (model.node? name).isSome = true := by
    unfold Model.node?
    rw [List.find?_isSome]
    exact ⟨other, List.mem_reverse.mpr member, by simp [same]⟩
  obtain ⟨node, here⟩ := Option.isSome_iff_exists.mp found
  refine ⟨node, ?_⟩
  unfold Model.node
  rw [here]

theorem node_name {model : Model} {name : String} {node : NodeType}
    (found : model.node name = .ok node) : node.name = name := by
  unfold Model.node Model.node? at found
  split at found
  · next first here =>
    cases found
    exact name_of_find? here
  · cases found

/-- The type of the edges of a relationship. -/
def edgeDefinition (model : Model) (node : NodeType) (relationship : Relationship) :
    TypeDefinition where
  kind := .object
  name := edgeTypeName node.name relationship.name
  fields := [⟨"cursor", requiredType "String", []⟩,
      ⟨"node", requiredType relationship.relatedType, []⟩] ++
    match model.propertiesOf? relationship with
    | some type => type.fields.map PropertyField.definition
    | none => []
  interfaces := ((model.propertiesOf? relationship).map PropertiesType.name).toList

/-- The type of the connection of a relationship. -/
def connectionDefinition (node : NodeType) (relationship : Relationship) : TypeDefinition where
  kind := .object
  name := connectionTypeName node.name relationship.name
  fields := [⟨"edges", requiredList (edgeTypeName node.name relationship.name), []⟩,
    ⟨"pageInfo", requiredType pageInfoName, []⟩]

/-- The type of the facts about a page. -/
def pageInfoDefinition : TypeDefinition where
  kind := .object
  name := pageInfoName
  fields := [⟨"hasNextPage", requiredType "Boolean", []⟩,
    ⟨"hasPreviousPage", requiredType "Boolean", []⟩,
    ⟨"startCursor", Graphql.namedType "String", []⟩, ⟨"endCursor", Graphql.namedType "String", []⟩]

/-- The interface of all nodes. -/
def interfaceDefinition : TypeDefinition where
  kind := .interface
  name := nodeInterface
  fields := [⟨"id", requiredType "ID", []⟩]

/-- The type that queries start from. -/
def queryDefinition (model : Model) (paged : Bool) : TypeDefinition where
  kind := .object
  name := TypeSystem.queryName
  fields := model.nodes.map listField ++ if paged then [lookupField] else []

/-- The type that mutations start from. -/
def mutationDefinition (model : Model) (paged : Bool) : TypeDefinition where
  kind := .object
  name := TypeSystem.mutationName
  fields := model.nodes.flatMap fun node => [createField node, model.updateField paged node]

/-- The type of an answer to a mutation. -/
def responseDefinition (node : NodeType) (name : String) : TypeDefinition where
  kind := .object
  name := name
  fields := [⟨pluralFieldName node.name, requiredList node.name, []⟩]

theorem responseDefinition_field {node : NodeType} {name : String} {definition : FieldDefinition}
    (member : definition ∈ (responseDefinition node name).fields) :
    definition.name = pluralFieldName node.name ∧ definition.type.core = node.name := by
  have only : definition = ⟨pluralFieldName node.name, requiredList node.name, []⟩ :=
    List.mem_singleton.mp member
  rw [only]
  exact ⟨by dsimp only, rfl⟩

/-- A field of a node is a property, a relationship or the connection of one. -/
theorem nodeDefinition_field {paged : Bool} {node : NodeType} {definition : FieldDefinition}
    (member : definition ∈ (nodeDefinition paged node).fields) :
    (node.field? definition.name).isSome = true ∨
      ∃ relationship ∈ node.relationships, definition.name = relationship.name ∨
        paged = true ∧ definition.name = relationship.name ++ connectionEnding := by
  rcases List.mem_cons.mp member with rfl | member
  · exact .inl rfl
  rcases List.mem_append.mp member with property | related
  · left
    obtain ⟨field, inside, rfl⟩ := List.mem_map.mp property
    unfold NodeType.field?
    split
    · rfl
    · rw [List.find?_isSome]
      exact ⟨field, inside, beq_iff_eq.mpr rfl⟩
  · right
    obtain ⟨relationship, inside, among⟩ := List.mem_flatMap.mp related
    refine ⟨relationship, inside, ?_⟩
    rcases List.mem_cons.mp among with rfl | connection
    · exact .inl rfl
    · split at connection
      · next offered =>
        cases List.mem_singleton.mp connection
        exact .inr ⟨offered, rfl⟩
      · cases connection

theorem relationshipFields_subset {paged : Bool} {node : NodeType} {relationship : Relationship}
    (inside : relationship ∈ node.relationships) :
    relationshipFields paged node relationship ⊆ (nodeDefinition paged node).fields :=
  fun _ member => List.mem_cons_of_mem _ (List.mem_append_right _
    (List.mem_flatMap.mpr ⟨relationship, inside, member⟩))

theorem listField_name (node : NodeType) :
    (listField node).name = pluralFieldName node.name := by
  simp only [listField]

theorem createField_name (node : NodeType) :
    (createField node).name = createFieldName node.name := by
  simp only [createField]

theorem updateField_name (model : Model) (paged : Bool) (node : NodeType) :
    (model.updateField paged node).name = updateFieldName node.name := by
  simp only [updateField]

/-- An update takes changes where there is anything to change. -/
theorem updateField_assignments (model : Model) (paged : Bool) (node : NodeType) :
    isUpdatable node = true ∧ ⟨"update", namedType (updateInputName node.name)⟩ ∈
        (model.updateField paged node).arguments ∨
      "update" ∉ (model.updateField paged node).arguments.map Graphql.ArgumentDefinition.name := by
  unfold updateField
  cases updatable : isUpdatable node with
  | true => exact .inl ⟨rfl, by simp⟩
  | false =>
      right
      rw [if_neg Bool.false_ne_true]
      split <;> simp

/-- An update takes changes of relationships where there are any to change. -/
theorem updateField_connections (model : Model) (paged : Bool) (node : NodeType) :
    model.updatableConnections paged node ≠ [] ∧
        ⟨"updateConnection", namedType (updateConnectionInputName node.name)⟩ ∈
          (model.updateField paged node).arguments ∨
      "updateConnection" ∉
        (model.updateField paged node).arguments.map Graphql.ArgumentDefinition.name := by
  unfold updateField
  cases empty : model.updatableConnections paged node with
  | cons first rest => exact .inl ⟨nofun, by simp⟩
  | nil =>
      right
      rw [if_pos (by exact rfl : ([] : List (Relationship × PropertiesType)).isEmpty = true)]
      split <;> simp

theorem interface_admits {paged : Bool} (offered : paged = true) (node : NodeType) :
    TypeSystem.admits interfaceDefinition (nodeDefinition paged node) = true := by
  simp [TypeSystem.admits, interfaceDefinition, nodeDefinition, offered]

theorem connectionField_mem {paged : Bool} {node : NodeType} {relationship : Relationship}
    (offered : paged = true) (inside : relationship ∈ node.relationships) :
    connectionField node relationship ∈ (nodeDefinition paged node).fields := by
  apply relationshipFields_subset inside
  unfold relationshipFields
  rw [if_pos offered]
  exact List.mem_cons_of_mem _ (List.mem_singleton_self _)

theorem offers_response {model : Model} {paged : Bool} {node : NodeType}
    (declared : node ∈ model.nodes) {name : String}
    (made : name = createResponseName node.name ∨ name = updateResponseName node.name) :
    model.Offers paged (responseDefinition node name) := by
  rcases made with rfl | rfl
  · exact .response declared (List.mem_cons_self ..)
  · exact .response declared (List.mem_cons_of_mem _ (List.mem_cons_self ..))

end Model

/-- The types that describe a type system have no plain names, and no field lists nodes under one of
them. -/
theorem introspection_reserved : ∀ type ∈ Graphql.introspectionTypes,
    isReservedName (pluralFieldName type.name) = true := by
  decide +kernel

theorem standardScalars_builtin : ∀ type ∈ Graphql.standardScalars,
    type.name ∈ builtinScalars := by
  decide +kernel

theorem standardTypes_regular : ∀ type ∈ Graphql.standardTypes,
    type.interfaces = [] ∧ type.kind ≠ .input ∧ type.kind ≠ .interface ∧
      ∀ field ∈ type.fields, isReservedName field.name = false ∧
        Graphql.distinct (field.arguments.map Graphql.ArgumentDefinition.name) = true := by
  decide +kernel

namespace Model.IsGrown

variable {model : Model} {paged : Bool} {types : TypeSystem} {type : TypeDefinition}
  (grown : model.IsGrown paged types)

include grown

theorem type?_eq (offers : model.Offers paged type) (other : isStandardName type.name = false) :
    types.type? type.name = some type := by
  unfold TypeSystem.type?
  rw [if_neg (by simp [other])]
  exact offers.definition?_eq grown.augmented

theorem names_nodup (offers : model.Offers paged type) :
    (type.fields.map FieldDefinition.name).Nodup := by
  have named := ((TypeSystem.build_ok_iff.mp grown.built).1 type
    ((mem_definitions_iff grown.augmented).mpr offers)).2
  unfold TypeSystem.isWellNamed at named
  simp only [Bool.and_eq_true] at named
  exact (distinct_iff _).mp named.1.1.1

theorem field?_eq (offers : model.Offers paged type) {field : FieldDefinition}
    (member : field ∈ type.fields) : type.field? field.name = some field :=
  find?_name_of_mem (grown.names_nodup offers) member

theorem arguments_nodup (offers : model.Offers paged type) {field : FieldDefinition}
    (member : field ∈ type.fields) :
    (field.arguments.map Graphql.ArgumentDefinition.name).Nodup := by
  have named := ((TypeSystem.build_ok_iff.mp grown.built).1 type
    ((mem_definitions_iff grown.augmented).mpr offers)).2
  unfold TypeSystem.isWellNamed at named
  simp only [Bool.and_eq_true, List.all_eq_true] at named
  exact (distinct_iff _).mp (named.1.2 field member).1.1

/-- A made or declared type has no field with a reserved name. -/
theorem plain (offers : model.Offers paged type) (other : isStandardName type.name = false)
    {field : FieldDefinition} (member : field ∈ type.fields) :
    isReservedName field.name = false := by
  have open_ := (Bool.and_eq_true_iff.mp grown.servable).1
  have own : type ∈ types.own :=
    List.mem_filter.mpr ⟨(mem_definitions_iff grown.augmented).mpr offers, by simp [other]⟩
  have told := List.all_eq_true.mp open_ type own
  unfold TypeSystem.hasOpenNames at told
  simp only [Bool.and_eq_true, List.all_eq_true] at told
  simpa using (told.1.2 field member).1

omit grown in
theorem root_offers : model.Offers paged (model.queryDefinition paged) := by
  have first : objectOffer TypeSystem.queryName _ ∈ model.rootOffers paged :=
    List.mem_cons_self ..
  exact .root first

theorem query_eq : types.definition? TypeSystem.queryName = some (model.queryDefinition paged) :=
  root_offers.definition?_eq grown.augmented

omit grown in
theorem mutation_offers (some_ : model.nodes ≠ []) :
    model.Offers paged (model.mutationDefinition paged) := by
  have second : objectOffer TypeSystem.mutationName (model.nodes.flatMap fun node =>
      [createField node, model.updateField paged node]) ∈ model.rootOffers paged := by
    simp [rootOffers, some_]
  exact .root second

/-- Without node types no type is there for mutations. -/
theorem mutation_eq_none (none_ : model.nodes = []) :
    types.definition? TypeSystem.mutationName = none := by
  refine Option.eq_none_iff_forall_not_mem.mpr fun type found => ?_
  have found : types.definition? TypeSystem.mutationName = some type := found
  have named : type.name = TypeSystem.mutationName := name_of_find? found
  have roots := (Bool.and_eq_true_iff.mp grown.servable).2
  have kind : type.kind = .object := by
    have told := List.all_eq_true.mp roots TypeSystem.mutationName (by simp)
    unfold TypeSystem.isRootObject at told
    rw [found] at told
    exact eq_of_beq told
  have nowhere : ∀ node, node ∉ model.nodes := fun node member => by
    rw [none_] at member
    cases member
  cases (mem_definitions_iff grown.augmented).mp (List.mem_of_find?_eq_some found) with
  | paging offered member =>
      rcases List.mem_cons.mp member with rfl | member
      · cases kind
      · cases List.mem_singleton.mp member
        exact absurd named (by decide)
  | scalar declared => cases kind
  | enum declared => cases kind
  | properties offered declared member =>
      simp only [PropertiesType.offers, List.mem_cons, List.not_mem_nil, or_false] at member
      rcases member with rfl | rfl | rfl | rfl <;> cases kind
  | connection offered declared => exact nowhere _ declared
  | node declared => exact nowhere _ declared
  | filter declared => exact nowhere _ declared
  | fieldInput declared => exact nowhere _ declared
  | creation declared => exact nowhere _ declared
  | change declared => exact nowhere _ declared
  | connectionChange declared => exact nowhere _ declared
  | response declared => exact nowhere _ declared
  | root member =>
      simp only [rootOffers, none_, List.isEmpty_nil, if_true, List.mem_singleton] at member
      subst member
      have apart : TypeSystem.queryName ≠ TypeSystem.mutationName := by decide
      exact absurd named apart

/-- Everything that queries start from takes arguments, so that a type with a field without any is
another one. -/
theorem name_ne_query (offers : model.Offers paged type) {field : FieldDefinition}
    (member : field ∈ type.fields) (bare : field.arguments = []) :
    type.name ≠ TypeSystem.queryName := by
  intro same
  have query := offers.definition?_eq grown.augmented
  rw [same, grown.query_eq] at query
  cases query
  rcases List.mem_append.mp member with listed | lookup
  · obtain ⟨node, -, rfl⟩ := List.mem_map.mp listed
    cases bare
  · split at lookup
    · cases List.mem_singleton.mp lookup
      cases bare
    · cases lookup

theorem has_query : types.Has (model.queryDefinition paged) :=
  grown.type?_eq root_offers (rootNames_plain _ (List.mem_cons_self ..))

theorem has_mutation (some_ : model.nodes ≠ []) : types.Has (model.mutationDefinition paged) :=
  grown.type?_eq (mutation_offers some_)
    (rootNames_plain _ (List.mem_cons_of_mem _ (List.mem_cons_self ..)))

/-- No node type goes by the name of a type that describes a type system. -/
theorem node_foreign {node : NodeType} (known : node ∈ model.nodes) :
    ∀ type ∈ Graphql.introspectionTypes, type.name ≠ node.name := by
  intro type member same
  have inside : listField node ∈ model.nodes.map listField ++ if paged then [lookupField] else [] :=
    List.mem_append_left _ (List.mem_map_of_mem known)
  have query : isStandardName TypeSystem.queryName = false := rootNames_plain _ (by simp)
  have plain := grown.plain root_offers query inside
  have reserved := introspection_reserved type member
  rw [same] at reserved
  rw [listField_name] at plain
  exact Bool.false_ne_true (plain.symm.trans reserved)

/-- A node type that has not the name of a builtin scalar is found under its name. -/
theorem node_type? {node : NodeType} (declared : node ∈ model.nodes)
    (unscalared : node.name ∉ builtinScalars) :
    types.type? node.name = some (nodeDefinition paged node) ∧ isStandardName node.name = false := by
  have other : isStandardName node.name = false := by
    rw [Bool.eq_false_iff]
    intro standard
    obtain ⟨type, member, same⟩ := List.any_eq_true.mp standard
    rw [beq_iff_eq] at same
    rcases List.mem_append.mp member with scalar | introspection
    · exact unscalared (same ▸ standardScalars_builtin type scalar)
    · exact grown.node_foreign declared type introspection same
  have offers : model.Offers paged (nodeDefinition paged node) := .node declared
  exact ⟨grown.type?_eq offers other, other⟩

/-- The types of a relationship are found under the names that are made of it. -/
theorem connection_types {node : NodeType} {relationship : Relationship} (offered : paged = true)
    (declared : node ∈ model.nodes) (inside : relationship ∈ node.relationships) :
    types.type? (edgeTypeName node.name relationship.name) =
        some (model.edgeDefinition node relationship) ∧
      types.type? (connectionTypeName node.name relationship.name) =
        some (connectionDefinition node relationship) := by
  have edge : model.Offers paged (model.edgeDefinition node relationship) :=
    .connection offered declared inside (List.mem_cons_self ..)
  have connection : model.Offers paged (connectionDefinition node relationship) :=
    .connection offered declared inside (List.mem_cons_of_mem _ (List.mem_cons_self ..))
  exact ⟨grown.type?_eq edge (Graphql.isStandardName_made _ (by decide)),
    grown.type?_eq connection (Graphql.isStandardName_made _ (by decide))⟩

theorem interface_type? (offered : paged = true) :
    types.type? nodeInterface = some interfaceDefinition := by
  have interface : model.Offers paged interfaceDefinition := .paging offered (List.mem_cons_self ..)
  exact grown.type?_eq interface pagingNames_foreign.1

theorem pageInfo_type? (offered : paged = true) :
    types.type? pageInfoName = some pageInfoDefinition := by
  have page : model.Offers paged pageInfoDefinition :=
    .paging offered (List.mem_cons_of_mem _ (List.mem_cons_self ..))
  exact grown.type?_eq page pagingNames_foreign.2

/-- The answers to mutations are found under the names that are made of a node type. -/
theorem response_type? {node : NodeType} (declared : node ∈ model.nodes) {name : String}
    (made : name = createResponseName node.name ∨ name = updateResponseName node.name) :
    types.type? name = some (responseDefinition node name) := by
  have offers := @offers_response model paged node declared name made
  refine grown.type?_eq offers ?_
  rcases made with rfl | rfl <;> exact Graphql.isStandardName_made _ (by decide)

/-- A relationship leads to a node type of the model. -/
theorem exists_related {node : NodeType} {relationship : Relationship}
    (declared : node ∈ model.nodes) (inside : relationship ∈ node.relationships) :
    ∃ related, model.related relationship = .ok related ∧
      related.name = relationship.relatedType ∧
      relationship.type.toExpr.core = relationship.relatedType := by
  obtain ⟨leaf, known⟩ := grown.linked.related node declared relationship inside
  obtain ⟨related, found⟩ := exists_node known
  refine ⟨related, found, node_name found, ?_⟩
  rw [TypeReference.toExpr_core, leaf]

/-- A type that is found is a standard one or one that is offered. -/
theorem offers_of_type? {name : String} (found : types.type? name = some type) :
    type ∈ Graphql.standardTypes ∨
      isStandardName type.name = false ∧ model.Offers paged type := by
  by_cases standard : isStandardName name = true
  · exact .inl (TypeSystem.type?_standard standard found).1
  · right
    rw [TypeSystem.type?_name found]
    unfold TypeSystem.type? at found
    rw [if_neg standard] at found
    exact ⟨Bool.eq_false_iff.mpr standard,
      (mem_definitions_iff grown.augmented).mp (List.mem_of_find?_eq_some found)⟩

/-- A field of an interface is one of the type that implements it, wherever it is selected. -/
theorem selectable?_of_interface {object : TypeDefinition} (has : types.Has type)
    (kind : type.kind = .interface) (there : types.Has object)
    (listed : type.name ∈ object.interfaces) {name : String} {definition : FieldDefinition}
    (found : type.selectable? name = some definition) :
    object.selectable? name = some definition := by
  obtain ⟨foreign, made⟩ : isStandardName type.name = false ∧ model.Offers paged type := by
    refine (grown.offers_of_type? has).resolve_left fun standard => ?_
    exact (standardTypes_regular type standard).2.2.1 kind
  obtain ⟨other, offers⟩ : isStandardName object.name = false ∧ model.Offers paged object := by
    refine (grown.offers_of_type? there).resolve_left fun standard => ?_
    rw [(standardTypes_regular object standard).1] at listed
    cases listed
  have apart : type.name ≠ TypeSystem.queryName := by
    intro same
    have query := made.definition?_eq grown.augmented
    rw [same, grown.query_eq] at query
    cases Option.some.inj query
    cases kind
  rw [TypeSystem.selectable?_of_not_query apart] at found
  split at found
  · next about =>
    unfold TypeDefinition.selectable?
    rw [if_pos about]
    exact found
  · obtain ⟨wanted, known, -, fields⟩ := interfaces_implemented grown.augmented object
      ((mem_definitions_iff grown.augmented).mpr offers) type.name listed
    cases (made.definition?_eq grown.augmented).symm.trans known
    have member := fields (List.mem_of_find?_eq_some found)
    have same : definition.name = name := name_of_find? found
    rw [TypeSystem.selectable?_of_plain (same ▸ grown.plain offers other member), ← same]
    exact grown.field?_eq offers member

/-- The types of a grown type system keep what requests rely on. -/
theorem isRegular : types.IsRegular where
  arguments type has field member := by
    rcases grown.offers_of_type? has with standard | ⟨-, offers⟩
    · exact (distinct_iff _).mp ((standardTypes_regular type standard).2.2.2 field member).2
    · exact grown.arguments_nodup offers member
  plain type has field member := by
    rcases grown.offers_of_type? has with standard | ⟨other, offers⟩
    · exact ((standardTypes_regular type standard).2.2.2 field member).1
    · exact grown.plain offers other member
  admits parent object has there kind admits name definition found := by
    rcases Bool.or_eq_true_iff.mp admits with same | implemented
    · rw [TypeSystem.Has, eq_of_beq same] at has
      cases has.symm.trans there
      exact found
    · obtain ⟨interface, listed⟩ := Bool.and_eq_true_iff.mp implemented
      exact grown.selectable?_of_interface has (eq_of_beq interface) there
        (List.contains_iff_mem.mp listed) found

end Model.IsGrown

end GraphGateway.Schema
