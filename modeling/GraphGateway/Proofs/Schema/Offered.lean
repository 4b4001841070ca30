import GraphGateway.Proofs.Schema.Sound

/-!
The types of a grown type system, told by what they are made for.  The registry keeps what is
offered and nothing else, each name once; so a definition is there exactly if a declaration, a node
type, a relationship or the roots call for it, and it is found under its name.
-/
namespace GraphGateway.Schema

open Graphql (FieldDefinition TypeDefinition TypeSystem namedType optionalList)

namespace Model

/-- The types that a model offers, each with what it is made for. -/
inductive Offers (model : Model) (paged : Bool) : TypeDefinition → Prop
  | paging {offer : Offer} (offered : paged = true) (member : offer ∈ pagingOffers) :
      model.Offers paged offer.type
  | scalar {name : String} (declared : name ∈ model.scalars) :
      model.Offers paged { kind := .scalar, name }
  | enum {enum : EnumType} (declared : enum ∈ model.enums) :
      model.Offers paged { kind := .enum, name := enum.name, values := enum.values }
  | properties {type : PropertiesType} {offer : Offer} (offered : paged = true)
      (declared : type ∈ model.properties) (member : offer ∈ type.offers) :
      model.Offers paged offer.type
  | connection {node : NodeType} {relationship : Relationship} {offer : Offer}
      (offered : paged = true) (declared : node ∈ model.nodes)
      (inside : relationship ∈ node.relationships)
      (member : offer ∈ model.connectionOffers node relationship) : model.Offers paged offer.type
  | node {node : NodeType} (declared : node ∈ model.nodes) :
      model.Offers paged (nodeDefinition paged node)
  | filter {node : NodeType} (declared : node ∈ model.nodes) :
      model.Offers paged (whereOffer node).type
  | fieldInput {node : NodeType} {relationship : Relationship} {offer : Offer}
      (declared : node ∈ model.nodes) (inside : relationship ∈ node.relationships)
      (member : offer ∈ model.fieldInputOffers paged node relationship) :
      model.Offers paged offer.type
  | creation {node : NodeType} (declared : node ∈ model.nodes) :
      model.Offers paged
        { kind := .input
          name := createInputName node.name
          fields := ⟨"id", namedType "ID", []⟩ ::
            (node.fields.map PropertyField.definition ++ relationshipInputs node) }
  | change {node : NodeType} (declared : node ∈ model.nodes) (updatable : isUpdatable node = true) :
      model.Offers paged
        { kind := .input
          name := updateInputName node.name
          fields := node.fields.map PropertyField.optionalDefinition ++ relationshipInputs node }
  | connectionChange {node : NodeType} {offer : Offer} (declared : node ∈ model.nodes)
      (member : offer ∈ model.updateConnectionOffers paged node) : model.Offers paged offer.type
  | response {node : NodeType} {offer : Offer} (declared : node ∈ model.nodes)
      (member : offer ∈ responseOffers node) : model.Offers paged offer.type
  | root {offer : Offer} (member : offer ∈ model.rootOffers paged) : model.Offers paged offer.type

variable {model : Model} {paged : Bool} {type : TypeDefinition}

theorem offers_of_mem_nodeOffers {node : NodeType} {offer : Offer} (declared : node ∈ model.nodes)
    (member : offer ∈ model.nodeOffers paged node) : model.Offers paged offer.type := by
  unfold nodeOffers createOffers updateOffers at member
  simp only [List.mem_append, List.mem_cons, List.mem_flatMap, List.not_mem_nil, or_false] at member
  rcases member with (((((paging | rfl | rfl) | ⟨relationship, inside, member⟩ | rfl) |
    ⟨relationship, inside, member⟩ | changed) | member) | member)
  · split at paging
    · next offered =>
      obtain ⟨relationship, inside, member⟩ := List.mem_flatMap.mp paging
      exact .connection offered declared inside member
    · cases paging
  · exact .node declared
  · exact .filter declared
  · exact .fieldInput declared inside member
  · exact .creation declared
  · exact .fieldInput declared inside member
  · split at changed
    · next updatable =>
      cases List.mem_singleton.mp changed
      exact .change declared updatable
    · cases changed
  · exact .connectionChange declared member
  · exact .response declared member

theorem offers_of_mem {offer : Offer} (member : offer ∈ model.offers paged) :
    model.Offers paged offer.type := by
  unfold offers at member
  simp only [List.mem_append, List.mem_map, List.mem_flatMap] at member
  rcases member with ((((paging | ⟨name, declared, rfl⟩) | ⟨enum, declared, rfl⟩) | properties) |
    ⟨node, declared, member⟩) | member
  · split at paging
    · next offered => exact .paging offered paging
    · cases paging
  · exact .scalar declared
  · exact .enum declared
  · split at properties
    · next offered =>
      obtain ⟨type, declared, member⟩ := List.mem_flatMap.mp properties
      exact .properties offered declared member
    · cases properties
  · exact offers_of_mem_nodeOffers declared member
  · exact .root member

theorem mem_of_nodeOffers {node : NodeType} {offer : Offer} (declared : node ∈ model.nodes)
    (member : offer ∈ model.nodeOffers paged node) : offer ∈ model.offers paged := by
  unfold offers
  exact List.mem_append_left _ (List.mem_append_right _
    (List.mem_flatMap.mpr ⟨node, declared, member⟩))

theorem exists_offer (offers : model.Offers paged type) :
    ∃ offer ∈ model.offers paged, offer.type = type := by
  cases offers with
  | paging offered member => exact ⟨_, by simp [Model.offers, offered, member], rfl⟩
  | scalar declared =>
      refine ⟨{ type := _, declared := true }, ?_, rfl⟩
      simp [Model.offers, declared]
  | enum declared =>
      refine ⟨{ type := _, declared := true }, ?_, rfl⟩
      unfold Model.offers
      iterate 3 apply List.mem_append_left
      exact List.mem_append_right _ (List.mem_map.mpr ⟨_, declared, rfl⟩)
  | properties offered declared member =>
      refine ⟨_, ?_, rfl⟩
      unfold Model.offers
      rw [if_pos offered, if_pos offered]
      iterate 2 apply List.mem_append_left
      exact List.mem_append_right _ (List.mem_flatMap.mpr ⟨_, declared, member⟩)
  | connection offered declared inside member =>
      refine ⟨_, mem_of_nodeOffers declared ?_, rfl⟩
      unfold nodeOffers
      rw [if_pos offered]
      iterate 5 apply List.mem_append_left
      exact List.mem_flatMap.mpr ⟨_, inside, member⟩
  | node declared => exact ⟨_, nodeDefinition_offered declared, rfl⟩
  | filter declared => exact ⟨_, mem_of_nodeOffers declared (by simp [nodeOffers]), rfl⟩
  | fieldInput declared inside member =>
      refine ⟨_, mem_of_nodeOffers declared ?_, rfl⟩
      have created : _ ∈ model.createOffers paged _ :=
        List.mem_append_left _ (List.mem_flatMap.mpr ⟨_, inside, member⟩)
      simp [nodeOffers, created]
  | creation declared =>
      exact ⟨inputOffer _ _, mem_of_nodeOffers declared (by simp [nodeOffers, createOffers]), rfl⟩
  | change declared updatable =>
      refine ⟨inputOffer _ _, mem_of_nodeOffers declared ?_, rfl⟩
      simp [nodeOffers, updateOffers, updatable]
  | connectionChange declared member =>
      exact ⟨_, mem_of_nodeOffers declared (by simp [nodeOffers, member]), rfl⟩
  | response declared member =>
      exact ⟨_, mem_of_nodeOffers declared (by simp [nodeOffers, member]), rfl⟩
  | root member => exact ⟨_, List.mem_append_right _ member, rfl⟩

end Model

namespace Registry

/-- What an accepted offer leaves: names told once, and nothing that was not there or offered. -/
theorem accept_kept (reserved : List String) (offer : Offer) {registry : Registry}
    (distinct : (registry.types.map TypeDefinition.name).Nodup) :
    ((registry.accept reserved offer).types.map TypeDefinition.name).Nodup ∧
      ∀ type ∈ (registry.accept reserved offer).types,
        type ∈ registry.types ∨ type = offer.type := by
  unfold accept
  dsimp only
  split
  · exact ⟨distinct, fun _ => .inl⟩
  · cases found : registry.type? offer.type.name with
    | none =>
        have fresh := List.find?_eq_none.mp found
        refine ⟨?_, ?_⟩
        · simp only [List.map_append, List.map_cons, List.map_nil]
          refine List.nodup_append.mpr ⟨distinct, by simp, ?_⟩
          rintro _ inside _ same rfl
          obtain ⟨type, member, named⟩ := List.mem_map.mp inside
          exact fresh type member (beq_iff_eq.mpr (named.trans (List.mem_singleton.mp same)))
        · intro type member
          exact (List.mem_append.mp member).imp_right List.mem_singleton.mp
    | some known =>
        dsimp only
        split
        · exact ⟨distinct, fun _ => .inl⟩
        · exact ⟨distinct, fun _ => .inl⟩

theorem foldl_accept_kept (reserved : List String) (offers : List Offer) {registry : Registry}
    (distinct : (registry.types.map TypeDefinition.name).Nodup) :
    ((offers.foldl (accept reserved) registry).types.map TypeDefinition.name).Nodup ∧
      ∀ type ∈ (offers.foldl (accept reserved) registry).types,
        type ∈ registry.types ∨ ∃ offer ∈ offers, offer.type = type := by
  induction offers generalizing registry with
  | nil => exact ⟨distinct, fun _ => .inl⟩
  | cons offer rest ih =>
      obtain ⟨first, kept⟩ := accept_kept reserved offer distinct
      obtain ⟨names, others⟩ := ih first
      refine ⟨names, ?_⟩
      intro type member
      rcases others type member with here | ⟨other, among, rfl⟩
      · rcases kept type here with before | rfl
        · exact .inl before
        · exact .inr ⟨offer, List.mem_cons_self .., rfl⟩
      · exact .inr ⟨other, List.mem_cons_of_mem _ among, rfl⟩

theorem ofOffers_kept (reserved : List String) (offers : List Offer) :
    ((ofOffers reserved offers).types.map TypeDefinition.name).Nodup ∧
      ∀ type ∈ (ofOffers reserved offers).types, ∃ offer ∈ offers, offer.type = type := by
  have start : (({} : Registry).types.map TypeDefinition.name).Nodup := .nil
  obtain ⟨names, others⟩ := foldl_accept_kept reserved offers start
  exact ⟨names, fun type member => (others type member).resolve_left List.not_mem_nil⟩

end Registry

namespace Model

variable {model : Model} {paged : Bool} {types : TypeSystem} {type : TypeDefinition}

/-- The definitions of a grown type system are the types that are offered. -/
theorem mem_definitions_iff (augmented : model.augmented paged = .ok types) :
    type ∈ types.definitions ↔ model.Offers paged type := by
  constructor
  · intro member
    unfold Model.augmented at augmented
    dsimp only at augmented
    split at augmented
    · cases augmented
      obtain ⟨offer, among, rfl⟩ := (Registry.ofOffers_kept _ _).2 type member
      exact offers_of_mem among
    · cases augmented
  · intro offers
    obtain ⟨offer, member, rfl⟩ := exists_offer offers
    exact offered_mem_of_augmented augmented offer member

theorem definitionNames_nodup (augmented : model.augmented paged = .ok types) :
    (types.definitions.map TypeDefinition.name).Nodup := by
  unfold Model.augmented at augmented
  dsimp only at augmented
  split at augmented
  · cases augmented
    exact (Registry.ofOffers_kept _ _).1
  · cases augmented

/-- A type that is offered is found under its name. -/
theorem Offers.definition?_eq (offers : model.Offers paged type)
    (augmented : model.augmented paged = .ok types) : types.definition? type.name = some type :=
  find?_name_of_mem (definitionNames_nodup augmented) ((mem_definitions_iff augmented).mpr offers)

end Model

end GraphGateway.Schema
