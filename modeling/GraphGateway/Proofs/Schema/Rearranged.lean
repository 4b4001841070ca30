import Mathlib.Data.List.Perm.Basic
import GraphGateway.Proofs.Schema.Pairing
import GraphGateway.Proofs.Schema.Closed

/-!
When offers are in conflict.  The registry takes one offer after another, but whether it runs into a
conflict is no matter of their order: it does not exactly if what bears a declared name is declared,
and offers of one name are of one type.  Nothing made and nothing that belongs to pages bears the
name of a root type, so the root types are in no conflict unless a declared type bears their names.
-/
namespace GraphGateway.Schema

open Graphql (IsMadeName TypeDefinition TypeSystem madeEndings)

/-- Offers that do not contradict each other, nor the names that are declared. -/
structure AreConsistent (reserved : List String) (offers : List Offer) : Prop where
  declared : ∀ offer ∈ offers, offer.type.name ∈ reserved → offer.declared = true
  alike : ∀ offer ∈ offers, ∀ other ∈ offers, offer.type.name = other.type.name →
    offer.type = other.type

theorem AreConsistent.of_mem {reserved others : List String} {offers more : List Offer}
    (consistent : AreConsistent reserved offers) (names : ∀ name ∈ others, name ∈ reserved)
    (among : ∀ offer ∈ more, offer ∈ offers) : AreConsistent others more where
  declared offer member kept := consistent.declared offer (among offer member) (names _ kept)
  alike offer member other memberToo :=
    consistent.alike offer (among offer member) other (among other memberToo)

namespace Registry

variable {reserved : List String}

/-- An offer is accepted that agrees with the types before it. -/
theorem accept_conflicts_nil {registry : Registry} {offer : Offer}
    (peaceful : registry.conflicts = [])
    (declared : offer.type.name ∈ reserved → offer.declared = true)
    (alike : ∀ type ∈ registry.types, type.name = offer.type.name → type = offer.type) :
    (registry.accept reserved offer).conflicts = [] := by
  unfold accept
  dsimp only
  split
  · next taken =>
    obtain ⟨kept, made⟩ := Bool.and_eq_true_iff.mp taken
    rw [declared (List.contains_iff_mem.mp kept)] at made
    cases made
  · cases found : registry.type? offer.type.name with
    | none => exact peaceful
    | some type =>
        have named : type.name = offer.type.name := name_of_find? found
        have same := alike type (List.mem_of_find?_eq_some found) named
        simp only [same, if_true, peaceful]

/-- Consistent offers are accepted one after another if they agree with the types before them. -/
theorem foldl_accept_conflicts_nil {offers : List Offer} {registry : Registry}
    (peaceful : registry.conflicts = [])
    (distinct : (registry.types.map TypeDefinition.name).Nodup)
    (consistent : AreConsistent reserved offers)
    (alike : ∀ type ∈ registry.types, ∀ offer ∈ offers, type.name = offer.type.name →
      type = offer.type) :
    (offers.foldl (accept reserved) registry).conflicts = [] := by
  induction offers generalizing registry with
  | nil => exact peaceful
  | cons offer rest ih =>
      have first := List.mem_cons_self (a := offer) (l := rest)
      have later (other : Offer) (member : other ∈ rest) := List.mem_cons_of_mem offer member
      obtain ⟨names, kept⟩ := accept_kept reserved offer distinct
      refine ih (accept_conflicts_nil peaceful (consistent.declared offer first) fun type member =>
        alike type member offer first) names (consistent.of_mem (fun _ => id) later) ?_
      intro type member other among
      rcases kept type member with before | rfl
      · exact alike type before other (later other among)
      · exact consistent.alike offer first other (later other among)

/-- Offers are accepted without a conflict exactly if they are consistent, in whatever order. -/
theorem ofOffers_conflicts_nil_iff {offers : List Offer} :
    (ofOffers reserved offers).conflicts = [] ↔ AreConsistent reserved offers := by
  constructor
  · intro peaceful
    refine ⟨declared_of_foldl_accept peaceful, fun offer member other among same => ?_⟩
    have accepted := (foldl_accept_of_conflicts_nil peaceful).2.2
    exact List.inj_on_of_nodup_map (ofOffers_kept reserved offers).1 (accepted offer member)
      (accepted other among) same
  · intro consistent
    exact foldl_accept_conflicts_nil rfl .nil consistent fun _ none_ => absurd none_ List.not_mem_nil

end Registry

/-- No made name is that of a root type. -/
theorem not_rootName_of_isMadeName {name : String} (made : IsMadeName name) :
    name ∉ rootTypeNames := by
  have foreign : ∀ ending ∈ madeEndings, ∀ name ∈ rootTypeNames,
      ending.toList.isSuffixOf name.toList = false := by
    decide +kernel
  obtain ⟨stem, ending, known, rfl⟩ := made
  intro root
  have ends := List.isSuffixOf_iff_suffix.mpr (List.suffix_append stem.toList ending.toList)
  rw [← String.toList_append, foreign ending known _ root] at ends
  cases ends

namespace Model

variable {model : Model} {paged : Bool}

/-- What bears the name of a root type and is offered beside these bears a declared name. -/
theorem reserved_of_rootName {offer : Offer} (member : offer ∈ model.ordinaryOffers paged)
    (root : offer.type.name ∈ rootTypeNames) : offer.type.name ∈ model.reservedNames := by
  have foreign : ∀ offer ∈ pagingOffers, offer.type.name ∉ rootTypeNames := by decide
  rcases name_of_mem_ordinaryOffers member with kept | made | paging
  · exact kept
  · exact absurd root (not_rootName_of_isMadeName made)
  · exact absurd root (foreign offer paging)

theorem rootName_of_mem_rootOffers {offer : Offer} (member : offer ∈ model.rootOffers paged) :
    offer.type.name ∈ rootTypeNames := by
  rcases mem_rootOffers member with rfl | ⟨-, rfl⟩
  · exact List.mem_cons_self ..
  · exact List.mem_cons_of_mem _ (List.mem_cons_self ..)

theorem made_of_mem_rootOffers {offer : Offer} (member : offer ∈ model.rootOffers paged) :
    offer.declared = false := by
  rcases mem_rootOffers member with rfl | ⟨-, rfl⟩ <;> rfl

/-- The root types have different names. -/
theorem rootOffers_alike {offer other : Offer} (member : offer ∈ model.rootOffers paged)
    (memberToo : other ∈ model.rootOffers paged) (same : offer.type.name = other.type.name) :
    offer = other := by
  have apart : TypeSystem.queryName ≠ TypeSystem.mutationName := by decide
  rcases mem_rootOffers member with rfl | ⟨-, rfl⟩ <;>
    rcases mem_rootOffers memberToo with rfl | ⟨-, rfl⟩
  · rfl
  · exact absurd same apart
  · exact absurd same.symm apart
  · rfl

/-- All that a model offers is consistent exactly if what it offers beside the root types is, and no
declared name is that of a root type it offers. -/
theorem areConsistent_offers_iff : AreConsistent model.reservedNames (model.offers paged) ↔
    AreConsistent model.reservedNames (model.ordinaryOffers paged) ∧
      ∀ offer ∈ model.rootOffers paged, offer.type.name ∉ model.reservedNames := by
  rw [offers_eq]
  constructor
  · intro consistent
    refine ⟨consistent.of_mem (fun _ => id) fun offer => List.mem_append_left _, ?_⟩
    intro offer root kept
    have declared := consistent.declared offer (List.mem_append_right _ root) kept
    rw [made_of_mem_rootOffers root] at declared
    cases declared
  · rintro ⟨consistent, free⟩
    have apart {offer root : Offer} (ordinary : offer ∈ model.ordinaryOffers paged)
        (member : root ∈ model.rootOffers paged) : offer.type.name ≠ root.type.name := by
      intro same
      refine free root member (same ▸ reserved_of_rootName ordinary ?_)
      exact same ▸ rootName_of_mem_rootOffers member
    refine ⟨?_, ?_⟩
    · intro offer member kept
      rcases List.mem_append.mp member with ordinary | root
      · exact consistent.declared offer ordinary kept
      · exact absurd kept (free offer root)
    · intro offer member other memberToo same
      rcases List.mem_append.mp member with ordinary | root <;>
        rcases List.mem_append.mp memberToo with ordinaryToo | rootToo
      · exact consistent.alike offer ordinary other ordinaryToo same
      · exact absurd same (apart ordinary rootToo)
      · exact absurd same.symm (apart ordinaryToo root)
      · rw [rootOffers_alike root rootToo same]

/-- A model grows into a type system exactly if what it offers is consistent. -/
theorem augmented_ok_iff : (∃ types, model.augmented paged = .ok types) ↔
    AreConsistent model.reservedNames (model.offers paged) := by
  rw [← Registry.ofOffers_conflicts_nil_iff]
  unfold augmented
  dsimp only
  split
  · next peaceful => exact ⟨fun _ => List.isEmpty_iff.mp peaceful, fun _ => ⟨_, rfl⟩⟩
  · next conflict => exact ⟨nofun, fun none_ => absurd (List.isEmpty_iff.mpr none_) conflict⟩

end Model

end GraphGateway.Schema

/-!
Models that declare the same in another order.  Where names tell types apart, a look-up does not see
the order, so both models offer the same types beside the root types and reserve the same names: both
grow into a type system or neither does, and only the fields of the root types are in another order.
The rules do not see the order either, though the pairs they are checked on do: they hold exactly if
all opposite ends agree.
-/
namespace GraphGateway.Graphql

/-- One definition, but that the fields of a root type may be in another order. -/
inductive TypeDefinition.Alike : TypeDefinition → TypeDefinition → Prop
  | same (type : TypeDefinition) : Alike type type
  | root {type : TypeDefinition} {fields : List FieldDefinition}
      (root : type.name = TypeSystem.queryName ∨ type.name = TypeSystem.mutationName)
      (reordered : type.fields.Perm fields) : Alike type { type with fields }

theorem TypeDefinition.Alike.symm {type other : TypeDefinition} (alike : type.Alike other) :
    other.Alike type := by
  cases alike with
  | same => exact .same type
  | root root reordered => exact .root root reordered.symm

theorem TypeDefinition.Alike.name_eq {type other : TypeDefinition} (alike : type.Alike other) :
    type.name = other.name := by
  cases alike <;> rfl

/-- Two type systems of the same types, each under one name. -/
structure TypeSystem.Alike (types others : TypeSystem) : Prop where
  distinct : (types.definitions.map TypeDefinition.name).Nodup
  distinctToo : (others.definitions.map TypeDefinition.name).Nodup
  forth : ∀ type ∈ types.definitions, ∃ other ∈ others.definitions, type.Alike other
  back : ∀ other ∈ others.definitions, ∃ type ∈ types.definitions, type.Alike other

end GraphGateway.Graphql

namespace GraphGateway.Schema

open Graphql (TypeDefinition TypeSystem)

/-- Where names tell items apart, the order of the items is no matter to a look-up. -/
theorem find?_name_eq_of_perm {α : Type} {name : α → String} {items others : List α}
    (distinct : (items.map name).Nodup) (perm : items.Perm others) (key : String) :
    items.find? (name · == key) = others.find? (name · == key) := by
  cases found : items.find? (name · == key) with
  | none =>
      refine (List.find?_eq_none.mpr fun item member => ?_).symm
      exact List.find?_eq_none.mp found item (perm.mem_iff.mpr member)
  | some item =>
      have named : name item = key := name_of_find? found
      have member := perm.mem_iff.mp (List.mem_of_find?_eq_some found)
      rw [← named, find?_name_of_mem ((perm.map name).nodup_iff.mp distinct) member]

/-- Two models of uniquely named types that differ at most in the order of these. -/
structure Model.Rearranges (model other : Model) : Prop where
  named : model.IsUniquelyNamed
  distinct : (model.properties.map PropertiesType.name).Nodup
  nodes : model.nodes.Perm other.nodes
  properties : model.properties.Perm other.properties
  enums : model.enums.Perm other.enums
  scalars : model.scalars.Perm other.scalars

/-- The rules hold exactly if each type keeps those on itself and all opposite ends agree. -/
theorem Model.IsUniquelyNamed.violations_nil_iff {model : Model} (named : model.IsUniquelyNamed) :
    model.violations = .ok [] ↔ model.typeProblems = [] ∧
      ∀ node ∈ model.nodes, ∀ relationship ∈ node.relationships,
        ∀ related ∈ model.nodes, ∀ other ∈ related.relationships,
          AreOpposite node relationship related other →
            (model.propertiesOf? relationship).map PropertiesType.signature =
              (model.propertiesOf? other).map PropertiesType.signature := by
  obtain ⟨pairs, ran⟩ := named.relationshipPairs_ok
  rw [named.violations_eq ran, Except.ok.injEq, List.append_eq_nil_iff, List.flatMap_eq_nil_iff,
    ← named.alike_iff_opposite_alike ran]
  exact and_congr_right' (forall₂_congr fun pair _ => endProblems_eq_nil_iff pair.1 pair.2 _ _)

namespace Model.Rearranges

variable {model other : Model} {paged : Bool}

theorem symm (rearranges : model.Rearranges other) : other.Rearranges model where
  named :=
    { nodes := (rearranges.nodes.map NodeType.name).nodup_iff.mp rearranges.named.nodes
      relationships := fun node member =>
        rearranges.named.relationships node (rearranges.nodes.mem_iff.mpr member) }
  distinct := (rearranges.properties.map PropertiesType.name).nodup_iff.mp rearranges.distinct
  nodes := rearranges.nodes.symm
  properties := rearranges.properties.symm
  enums := rearranges.enums.symm
  scalars := rearranges.scalars.symm

theorem propertiesOf?_eq (rearranges : model.Rearranges other) :
    model.propertiesOf? = other.propertiesOf? := by
  funext relationship
  refine Option.bind_congr fun name _ => ?_
  have perm : model.properties.reverse.Perm other.properties.reverse :=
    (List.reverse_perm _).trans (rearranges.properties.trans (List.reverse_perm _).symm)
  refine find?_name_eq_of_perm ?_ perm name
  exact ((List.reverse_perm _).map PropertiesType.name).nodup_iff.mpr rearranges.distinct

theorem offeredProperties?_eq (rearranges : model.Rearranges other) (offered : Bool) :
    model.offeredProperties? offered = other.offeredProperties? offered := by
  funext relationship
  unfold offeredProperties?
  rw [rearranges.propertiesOf?_eq]

theorem updatableConnections_eq (rearranges : model.Rearranges other) (node : NodeType) :
    model.updatableConnections paged node = other.updatableConnections paged node := by
  unfold updatableConnections
  rw [rearranges.offeredProperties?_eq]

theorem fieldInputOffers_eq (rearranges : model.Rearranges other) (node : NodeType) :
    model.fieldInputOffers paged node = other.fieldInputOffers paged node := by
  funext relationship
  unfold fieldInputOffers
  rw [rearranges.offeredProperties?_eq]

theorem connectionOffers_eq (rearranges : model.Rearranges other) (node : NodeType) :
    model.connectionOffers node = other.connectionOffers node := by
  funext relationship
  unfold connectionOffers
  rw [rearranges.propertiesOf?_eq]

/-- The same is made for a node type. -/
theorem nodeOffers_eq (rearranges : model.Rearranges other) (node : NodeType) :
    model.nodeOffers paged node = other.nodeOffers paged node := by
  unfold nodeOffers createOffers updateOffers updateConnectionOffers
  rw [rearranges.connectionOffers_eq, rearranges.fieldInputOffers_eq,
    rearranges.updatableConnections_eq]

theorem updateField_eq (rearranges : model.Rearranges other) (node : NodeType) :
    model.updateField paged node = other.updateField paged node := by
  unfold updateField
  rw [rearranges.updatableConnections_eq]

/-- Beside the root types the same is offered. -/
theorem ordinaryOffers_perm (rearranges : model.Rearranges other) :
    (model.ordinaryOffers paged).Perm (other.ordinaryOffers paged) := by
  have properties : (if paged then model.properties.flatMap PropertiesType.offers else []).Perm
      (if paged then other.properties.flatMap PropertiesType.offers else []) := by
    cases paged with
    | false => exact .refl _
    | true => exact rearranges.properties.flatMap_right _
  have nodes : (model.nodes.flatMap (model.nodeOffers paged)).Perm
      (other.nodes.flatMap (other.nodeOffers paged)) :=
    rearranges.nodes.flatMap fun node _ => rearranges.nodeOffers_eq node ▸ .refl _
  unfold ordinaryOffers
  exact ((((List.Perm.refl _).append (rearranges.scalars.map _)).append
    (rearranges.enums.map _)).append properties).append nodes

theorem reservedNames_perm (rearranges : model.Rearranges other) :
    model.reservedNames.Perm other.reservedNames :=
  (((rearranges.nodes.map _).append (rearranges.properties.map _)).append
    (rearranges.enums.map _)).append rearranges.scalars

/-- A root type is offered with its fields in another order. -/
theorem exists_rootOffer (rearranges : model.Rearranges other) {offer : Offer}
    (member : offer ∈ model.rootOffers paged) :
    ∃ counterpart ∈ other.rootOffers paged, offer.type.Alike counterpart.type := by
  rcases mem_rootOffers member with rfl | ⟨some_, rfl⟩
  · refine ⟨_, List.mem_cons_self .., .root (.inl rfl) ?_⟩
    exact (rearranges.nodes.map listField).append (.refl _)
  · have someToo : ¬ other.nodes.isEmpty = true := by
      rw [← rearranges.nodes.isEmpty_eq]
      exact fun none_ => some_ (List.isEmpty_iff.mp none_)
    have offered : objectOffer TypeSystem.mutationName (other.nodes.flatMap fun node =>
        [createField node, other.updateField paged node]) ∈ other.rootOffers paged := by
      unfold rootOffers
      rw [if_neg someToo]
      exact List.mem_cons_of_mem _ (List.mem_singleton_self _)
    refine ⟨_, offered, .root (.inr rfl) ?_⟩
    exact rearranges.nodes.flatMap fun node _ => rearranges.updateField_eq node ▸ .refl _

/-- What is consistent in one order is so in the other. -/
theorem areConsistent_offers (rearranges : model.Rearranges other)
    (consistent : AreConsistent model.reservedNames (model.offers paged)) :
    AreConsistent other.reservedNames (other.offers paged) := by
  obtain ⟨ordinary, free⟩ := areConsistent_offers_iff.mp consistent
  have reserved (name : String) : name ∈ other.reservedNames → name ∈ model.reservedNames :=
    rearranges.reservedNames_perm.mem_iff.mpr
  refine areConsistent_offers_iff.mpr ⟨ordinary.of_mem reserved fun offer =>
    rearranges.ordinaryOffers_perm.mem_iff.mpr, ?_⟩
  intro offer member kept
  obtain ⟨counterpart, known, alike⟩ := rearranges.symm.exists_rootOffer member
  exact free counterpart known (alike.name_eq ▸ reserved _ kept)

theorem augmented_ok_iff (rearranges : model.Rearranges other) :
    (∃ types, model.augmented paged = .ok types) ↔ ∃ types, other.augmented paged = .ok types := by
  rw [Model.augmented_ok_iff, Model.augmented_ok_iff]
  exact ⟨rearranges.areConsistent_offers, rearranges.symm.areConsistent_offers⟩

theorem exists_definition (rearranges : model.Rearranges other) {types others : TypeSystem}
    (augmented : model.augmented paged = .ok types)
    (augmentedToo : other.augmented paged = .ok others) {type : TypeDefinition}
    (member : type ∈ types.definitions) :
    ∃ counterpart ∈ others.definitions, type.Alike counterpart := by
  obtain ⟨offer, among, rfl⟩ := exists_offer ((mem_definitions_iff augmented).mp member)
  have there := offered_mem_of_augmented augmentedToo
  rcases List.mem_append.mp (offers_eq model paged ▸ among) with ordinary | root
  · have offered := rearranges.ordinaryOffers_perm.mem_iff.mp ordinary
    exact ⟨offer.type, there offer (List.mem_append_left _ offered), .same _⟩
  · obtain ⟨counterpart, offered, alike⟩ := rearranges.exists_rootOffer root
    exact ⟨counterpart.type, there counterpart (List.mem_append_right _ offered), alike⟩

/-- Both grow into the same types. -/
theorem augmented_alike (rearranges : model.Rearranges other) {types others : TypeSystem}
    (augmented : model.augmented paged = .ok types)
    (augmentedToo : other.augmented paged = .ok others) : types.Alike others where
  distinct := definitionNames_nodup augmented
  distinctToo := definitionNames_nodup augmentedToo
  forth _ member := rearranges.exists_definition augmented augmentedToo member
  back _ member :=
    let ⟨type, known, alike⟩ := rearranges.symm.exists_definition augmentedToo augmented member
    ⟨type, known, alike.symm⟩

theorem typeProblems_perm (rearranges : model.Rearranges other) :
    model.typeProblems.Perm other.typeProblems :=
  (rearranges.nodes.flatMap_right _).append (rearranges.properties.flatMap_right _)

theorem violations_nil (rearranges : model.Rearranges other) (kept : model.violations = .ok []) :
    other.violations = .ok [] := by
  obtain ⟨alone, agree⟩ := rearranges.named.violations_nil_iff.mp kept
  refine rearranges.symm.named.violations_nil_iff.mpr
    ⟨(alone ▸ rearranges.typeProblems_perm).nil_eq.symm, ?_⟩
  intro node known relationship inside related knownToo candidate among opposite
  rw [← rearranges.propertiesOf?_eq]
  exact agree node (rearranges.nodes.mem_iff.mpr known) relationship inside related
    (rearranges.nodes.mem_iff.mpr knownToo) candidate among opposite

end Model.Rearranges

end GraphGateway.Schema
