import GraphGateway.Proofs.Schema.Legal

/-!
Closed type systems.  A grown type system has every type that its model offers, as it is offered and
under a name of its own, and nothing besides.  Every name that a definition gives for a field, an
argument or an interface is then one of a definition beside it, of a kind that may stand there, or of
a builtin scalar, which no definition replaces unless a declared type bears its name.
-/
namespace GraphGateway.Graphql

/-- Where a name in a type system leads: to a builtin scalar that has no definition, or to the
definition of the name, which is of a fitting kind. -/
inductive TypeSystem.Finds (system : TypeSystem) : (TypeKind → Bool) → String → Prop
  | builtin {fits : TypeKind → Bool} {name : String} (known : name ∈ Schema.builtinScalars)
      (free : system.definition? name = none) (scalar : fits .scalar = true) :
      system.Finds fits name
  | defined {fits : TypeKind → Bool} {name : String} {type : TypeDefinition}
      (found : system.definition? name = some type) (fit : fits type.kind = true) :
      system.Finds fits name

/-- A name that is made of another one. -/
def IsMadeName (name : String) : Prop :=
  ∃ stem, ∃ ending ∈ madeEndings, name = stem ++ ending

theorem IsMadeName.of (stem : String) {ending : String} (made : ending ∈ madeEndings) :
    IsMadeName (stem ++ ending) :=
  ⟨stem, ending, made, rfl⟩

end GraphGateway.Graphql

namespace GraphGateway.Schema

open Graphql (IsMadeName TypeDefinition TypeKind TypeSystem isStandardName isStandardName_made)

namespace Registry

variable {reserved : List String}

/-- Without a conflict a declared name is borne by nothing but what is declared. -/
theorem declared_of_accept {registry : Registry} {offer : Offer}
    (peaceful : (registry.accept reserved offer).conflicts = []) (kept : offer.type.name ∈ reserved) :
    offer.declared = true := by
  by_contra made
  rw [Bool.not_eq_true] at made
  unfold accept at peaceful
  simp [kept, made] at peaceful

theorem declared_of_foldl_accept {offers : List Offer} {registry : Registry}
    (peaceful : (offers.foldl (accept reserved) registry).conflicts = []) :
    ∀ offer ∈ offers, offer.type.name ∈ reserved → offer.declared = true := by
  induction offers generalizing registry with
  | nil => exact fun _ none_ => absurd none_ List.not_mem_nil
  | cons first rest ih =>
      intro offer member kept
      rcases List.mem_cons.mp member with rfl | later
      · rw [List.foldl_cons] at peaceful
        exact declared_of_accept (foldl_accept_of_conflicts_nil peaceful).1 kept
      · exact ih peaceful offer later kept

end Registry

theorem PropertiesType.name_of_mem_offers {type : PropertiesType} {offer : Offer}
    (member : offer ∈ type.offers) :
    offer.type.name = type.name ∨ IsMadeName offer.type.name := by
  simp only [PropertiesType.offers, List.mem_cons, List.not_mem_nil, or_false] at member
  rcases member with rfl | rfl | rfl | rfl
  · exact .inl rfl
  · exact .inr (.of _ (by decide))
  · exact .inr (.of _ (by decide))
  · exact .inr (.of _ (by decide))

namespace Model

variable {model : Model} {paged : Bool} {types : TypeSystem} {type : TypeDefinition}

/-- The types that are offered beside the root types. -/
def ordinaryOffers (model : Model) (paged : Bool) : List Offer :=
  (if paged then pagingOffers else []) ++
    (model.scalars.map fun name => { type := { kind := .scalar, name }, declared := true }) ++
    (model.enums.map fun enum =>
      { type := { kind := .enum, name := enum.name, values := enum.values }, declared := true }) ++
    (if paged then model.properties.flatMap PropertiesType.offers else []) ++
    model.nodes.flatMap (model.nodeOffers paged)

theorem offers_eq (model : Model) (paged : Bool) :
    model.offers paged = model.ordinaryOffers paged ++ model.rootOffers paged := rfl

section

variable {node : NodeType} {relationship : Relationship} {offer : Offer}

theorem isMadeName_of_mem_connectionOffers
    (member : offer ∈ model.connectionOffers node relationship) : IsMadeName offer.type.name := by
  simp only [connectionOffers, List.mem_cons, List.not_mem_nil, or_false] at member
  rcases member with rfl | rfl
  · exact .of _ (by decide)
  · exact .of _ (by decide)

theorem isMadeName_of_mem_fieldInputOffers
    (member : offer ∈ model.fieldInputOffers paged node relationship) :
    IsMadeName offer.type.name := by
  simp only [fieldInputOffers, List.mem_cons, List.not_mem_nil, or_false] at member
  rcases member with rfl | rfl | rfl
  · exact .of _ (by decide)
  · exact .of _ (by decide)
  · exact .of _ (by decide)

theorem isMadeName_of_mem_updateConnectionOffers
    (member : offer ∈ model.updateConnectionOffers paged node) : IsMadeName offer.type.name := by
  unfold updateConnectionOffers at member
  rcases List.mem_append.mp member with entry | whole
  · obtain ⟨_, -, rfl⟩ := List.mem_map.mp entry
    exact .of _ (by decide)
  · split at whole
    · cases whole
    · cases List.mem_singleton.mp whole
      exact .of _ (by decide)

theorem isMadeName_of_mem_responseOffers (member : offer ∈ responseOffers node) :
    IsMadeName offer.type.name := by
  simp only [responseOffers, List.mem_cons, List.not_mem_nil, or_false] at member
  rcases member with rfl | rfl
  · exact .of _ (by decide)
  · exact .of _ (by decide)

theorem name_of_mem_nodeOffers (member : offer ∈ model.nodeOffers paged node) :
    offer.type.name = node.name ∨ IsMadeName offer.type.name := by
  unfold nodeOffers createOffers updateOffers at member
  simp only [List.mem_append, List.mem_cons, List.mem_flatMap, List.not_mem_nil, or_false] at member
  rcases member with (((((paging | rfl | rfl) | ⟨_, -, made⟩ | rfl) | ⟨_, -, made⟩ | changed) |
    made) | made)
  · split at paging
    · obtain ⟨_, -, made⟩ := List.mem_flatMap.mp paging
      exact .inr (isMadeName_of_mem_connectionOffers made)
    · cases paging
  · exact .inl rfl
  · exact .inr (.of _ (by decide))
  · exact .inr (isMadeName_of_mem_fieldInputOffers made)
  · exact .inr (.of _ (by decide))
  · exact .inr (isMadeName_of_mem_fieldInputOffers made)
  · split at changed
    · cases List.mem_singleton.mp changed
      exact .inr (.of _ (by decide))
    · cases changed
  · exact .inr (isMadeName_of_mem_updateConnectionOffers made)
  · exact .inr (isMadeName_of_mem_responseOffers made)

end

/-- What is offered beside the root types bears a declared name or a made one, or belongs to pages. -/
theorem name_of_mem_ordinaryOffers {offer : Offer} (member : offer ∈ model.ordinaryOffers paged) :
    offer.type.name ∈ model.reservedNames ∨ IsMadeName offer.type.name ∨ offer ∈ pagingOffers := by
  unfold ordinaryOffers at member
  simp only [List.mem_append, List.mem_map, List.mem_flatMap] at member
  unfold reservedNames
  simp only [List.mem_append]
  rcases member with (((paging | ⟨name, declared, rfl⟩) | ⟨enum, declared, rfl⟩) | properties) |
    ⟨node, declared, member⟩
  · split at paging
    · exact .inr (.inr paging)
    · cases paging
  · exact .inl (.inr declared)
  · exact .inl (.inl (.inr (List.mem_map_of_mem declared)))
  · split at properties
    · obtain ⟨type, declared, member⟩ := List.mem_flatMap.mp properties
      rcases type.name_of_mem_offers member with same | made
      · exact .inl (.inl (.inl (.inr (same ▸ List.mem_map_of_mem declared))))
      · exact .inr (.inl made)
    · cases properties
  · rcases name_of_mem_nodeOffers member with same | made
    · exact .inl (.inl (.inl (.inl (same ▸ List.mem_map_of_mem declared))))
    · exact .inr (.inl made)

theorem mem_rootOffers {offer : Offer} (member : offer ∈ model.rootOffers paged) :
    offer = objectOffer TypeSystem.queryName
        (model.nodes.map listField ++ if paged then [lookupField] else []) ∨
      model.nodes ≠ [] ∧ offer = objectOffer TypeSystem.mutationName
        (model.nodes.flatMap fun node => [createField node, model.updateField paged node]) := by
  unfold rootOffers at member
  rcases List.mem_cons.mp member with rfl | mutation
  · exact .inl rfl
  · split at mutation
    · cases mutation
    · next mutable =>
      refine .inr ⟨fun none_ => mutable (List.isEmpty_iff.mpr none_), ?_⟩
      exact List.mem_singleton.mp mutation

/-- What is offered bears a declared name or one that is no name of the system itself. -/
theorem Offers.reserved_or_foreign (offers : model.Offers paged type) :
    type.name ∈ model.reservedNames ∨ isStandardName type.name = false := by
  obtain ⟨offer, member, rfl⟩ := exists_offer offers
  rcases List.mem_append.mp (offers_eq model paged ▸ member) with ordinary | root
  · rcases name_of_mem_ordinaryOffers ordinary with kept | ⟨stem, ending, made, same⟩ | paging
    · exact .inl kept
    · rw [same]
      exact .inr (isStandardName_made stem made)
    · simp only [pagingOffers, List.mem_cons, List.not_mem_nil, or_false] at paging
      rcases paging with rfl | rfl
      · exact .inr pagingNames_foreign.1
      · exact .inr pagingNames_foreign.2
  · rcases mem_rootOffers root with rfl | ⟨-, rfl⟩
    · exact .inr (rootNames_plain TypeSystem.queryName (by decide))
    · exact .inr (rootNames_plain TypeSystem.mutationName (by decide))

section

variable (augmented : model.augmented paged = .ok types)
include augmented

/-- What is made bears no declared name. -/
theorem declared_of_reserved {offer : Offer} (member : offer ∈ model.offers paged)
    (kept : offer.type.name ∈ model.reservedNames) : offer.declared = true := by
  unfold Model.augmented at augmented
  dsimp only at augmented
  split at augmented
  · next peaceful =>
    exact Registry.declared_of_foldl_accept (List.isEmpty_iff.mp peaceful) offer member kept
  · cases augmented

variable (plain : ∀ name ∈ model.reservedNames, name ∉ builtinScalars)
include plain

/-- No definition takes the name of a builtin scalar. -/
theorem definition?_builtin {name : String} (known : name ∈ builtinScalars) :
    types.definition? name = none := by
  refine List.find?_eq_none.mpr fun type member same => ?_
  have named : type.name = name := eq_of_beq same
  rcases ((mem_definitions_iff augmented).mp member).reserved_or_foreign with kept | foreign
  · exact plain _ kept (named ▸ known)
  · rw [named, (builtinScalars_standard name known).1] at foreign
    cases foreign

theorem leaf_found {fits : TypeKind → Bool} {name : String} (known : name ∈ model.leafNames)
    (scalar : fits .scalar = true) (enum : fits .enum = true) : types.Finds fits name := by
  simp only [leafNames, List.mem_append, List.mem_map] at known
  rcases known with (builtin | ⟨enum_, declared, rfl⟩) | declared
  · exact .builtin builtin (definition?_builtin augmented plain builtin) scalar
  · exact .defined ((Offers.enum declared).definition?_eq augmented) enum
  · exact .defined ((Offers.scalar declared).definition?_eq augmented) scalar

/-- Whatever a name in an offered type refers to is found under that name. -/
theorem Refers.finds {fits : TypeKind → Bool} {name : String}
    (refers : model.Refers paged fits name) (linked : model.IsLinked) : types.Finds fits name := by
  cases refers with
  | builtin known scalar =>
      exact .builtin known (definition?_builtin augmented plain known) scalar
  | nodeField declared inside scalar enum =>
      exact leaf_found augmented plain (linked.nodeFields _ declared _ inside) scalar enum
  | propertyField offered declared inside scalar enum =>
      exact leaf_found augmented plain (linked.propertyFields _ declared _ inside) scalar enum
  | node declared => exact .defined ((Offers.node declared).definition?_eq augmented) rfl
  | edge offered declared inside found =>
      have interface : model.Offers paged _ :=
        .properties offered (properties_mem found) (List.mem_cons_self ..)
      exact .defined (interface.definition?_eq augmented) rfl
  | made offers foreign fit => exact .defined (offers.definition?_eq augmented) fit

end

end Model

/-- A grown type system has the types that are offered, each under a name of its own which a made
type does not share with a declared one, and every name in it leads to a type that may stand
there. -/
theorem Declared.augmented_closed {document : Graphql.Document} {declared : Declared}
    (read : Declared.ofDocument? document = some declared) {paged : Bool} {types : TypeSystem}
    (augmented : declared.model.augmented paged = .ok types)
    (plain : ∀ name ∈ declared.model.reservedNames, name ∉ builtinScalars) :
    (types.definitions.map TypeDefinition.name).Nodup ∧
      (∀ offer ∈ declared.model.offers paged,
        types.definition? offer.type.name = some offer.type ∧
          (offer.type.name ∈ declared.model.reservedNames → offer.declared = true)) ∧
      (∀ type ∈ types.definitions, ∃ offer ∈ declared.model.offers paged, offer.type = type) ∧
      ∀ type ∈ types.definitions, type.Leads types.Finds := by
  refine ⟨Model.definitionNames_nodup augmented, fun offer member => ?_, fun type member => ?_,
    fun type member => ?_⟩
  · have offers := Model.offers_of_mem member
    exact ⟨offers.definition?_eq augmented, Model.declared_of_reserved augmented member⟩
  · exact Model.exists_offer ((Model.mem_definitions_iff augmented).mp member)
  · have offers := (Model.mem_definitions_iff augmented).mp member
    apply (offers.leads (Declared.isLinked read)).imp
    intro fits name refers
    exact refers.finds augmented plain (Declared.isLinked read)

theorem augmented_closed_credits :
    ∃ declared types, Declared.ofDocument? (creditsDocument "title") = some declared ∧
      declared.model.augmented true = .ok types ∧
      (∀ name ∈ declared.model.reservedNames, name ∉ builtinScalars) ∧
      (types.definitions.map TypeDefinition.name).Nodup ∧
      types.definitions.length = 21 ∧ ∀ type ∈ types.definitions, type.Leads types.Finds := by
  have grown : ((credits "title").any fun made =>
      (made.1.model.reservedNames.all fun name => !builtinScalars.contains name) &&
        made.2.definitions.length == 21) = true := by
    decide +kernel
  obtain ⟨⟨declared, types⟩, found, told⟩ := (Option.any_eq_true _ _).mp grown
  rw [Bool.and_eq_true] at told
  obtain ⟨read, augmented⟩ := credits_grown found
  have plain : ∀ name ∈ declared.model.reservedNames, name ∉ builtinScalars := by
    simpa using told.1
  obtain ⟨names, -, -, leads⟩ := Declared.augmented_closed read augmented plain
  exact ⟨declared, types, read, augmented, plain, names, eq_of_beq told.2, leads⟩

end GraphGateway.Schema

/-!
The fields of inputs.  The inputs of a node type, of the entries of its relationships and of the
properties of these have the fields that their declarations give them, in the type system that was
grown; an input that was not made has none, and no other input stands under its name.
-/
namespace GraphGateway.Graphql.TypeSystem

/-- The names of the fields of an input; what is no input, or not there, has none. -/
def inputNames (system : TypeSystem) (name : String) : List String :=
  match system.definition? name with
  | some type => if type.kind = .input then type.fields.map FieldDefinition.name else []
  | none => []

/-- The type of an argument of a mutation, if the mutation has an argument of that name. -/
def argumentType? (system : TypeSystem) (mutation argument : String) : Option TypeDefinition := do
  let root ← system.definition? mutationName
  let field ← root.field? mutation
  let taken ← field.argument? argument
  system.definition? taken.type.core

end GraphGateway.Graphql.TypeSystem

namespace GraphGateway.Schema

open Graphql (FieldDefinition TypeDefinition TypeSystem madeEndings)

/-- A name with the ending of an update is that of no other kind of made type. -/
theorem eq_of_updateInputName {stem ending name : String} (made : ending ∈ madeEndings)
    (same : stem ++ ending = updateInputName name) : ending = "UpdateInput" ∧ stem = name := by
  have apart : ∀ ending ∈ madeEndings,
      ending.toList.isSuffixOf "UpdateInput".toList = true ∨
        "UpdateInput".toList.isSuffixOf ending.toList = true → ending = "UpdateInput" := by
    decide +kernel
  have chars : stem.toList ++ ending.toList = name.toList ++ "UpdateInput".toList := by
    rw [← String.toList_append, ← String.toList_append, same]
    rfl
  have first : ending.toList <:+ name.toList ++ "UpdateInput".toList :=
    chars ▸ List.suffix_append _ _
  have known : ending = "UpdateInput" := by
    apply apart ending made
    have either := List.suffix_or_suffix_of_suffix first (List.suffix_append _ _)
    exact either.imp List.isSuffixOf_iff_suffix.mpr List.isSuffixOf_iff_suffix.mpr
  subst known
  exact ⟨rfl, String.toList_inj.mp (List.append_cancel_right chars)⟩

namespace Model

variable {model : Model} {paged : Bool} {types : TypeSystem} {type : TypeDefinition}
  {node : NodeType} {relationship : Relationship}

theorem properties_name {properties : PropertiesType}
    (found : model.propertiesOf? relationship = some properties) :
    relationship.properties = some properties.name := by
  obtain ⟨name, named, here⟩ := Option.bind_eq_some_iff.mp found
  unfold Model.propertiesType? at here
  have same : properties.name = name := by simpa using List.find?_some here
  rw [named, same]

section

variable (augmented : model.augmented paged = .ok types)
include augmented

/-- An input that is offered has the fields that it is offered with. -/
theorem Offers.inputNames_eq (offers : model.Offers paged type) (input : type.kind = .input) :
    types.inputNames type.name = type.fields.map FieldDefinition.name := by
  unfold TypeSystem.inputNames
  rw [offers.definition?_eq augmented]
  exact if_pos input

theorem filterNames_eq (known : node ∈ model.nodes) :
    types.inputNames (whereInputName node.name) =
      identifierName :: (node.fields.filter (!·.type.isList)).map PropertyField.name := by
  have names := (Offers.filter known).inputNames_eq augmented rfl
  simp only [whereOffer, inputOffer, List.map_cons, optionalNames_eq] at names
  exact names

theorem creationNames_eq (known : node ∈ model.nodes) :
    types.inputNames (createInputName node.name) = identifierName ::
      (node.fields.map PropertyField.name ++ node.relationships.map Relationship.name) := by
  have names := (Offers.creation known).inputNames_eq augmented rfl
  rw [List.map_cons, List.map_append, definitionNames_eq, relationshipInputNames_eq] at names
  exact names

/-- An input under the name of the input for updates is that input. -/
theorem Offers.updatable (offers : model.Offers paged type) (built : types.build = .ok ())
    (known : node ∈ model.nodes) (input : type.kind = .input)
    (named : type.name = updateInputName node.name) : isUpdatable node = true := by
  have other {stem ending : String} (made : ending ∈ madeEndings) (apart : ending ≠ "UpdateInput")
      (same : stem ++ ending = updateInputName node.name) : isUpdatable node = true :=
    absurd (eq_of_updateInputName made same).1 apart
  cases offers with
  | paging offered member =>
      simp only [pagingOffers, List.mem_cons, List.not_mem_nil, or_false] at member
      rcases member with rfl | rfl <;> cases input
  | scalar => cases input
  | enum => cases input
  | properties offered declared member =>
      have interface : model.Offers paged _ :=
        .properties offered declared (List.mem_cons_self ..)
      simp only [PropertiesType.offers, List.mem_cons, List.not_mem_nil, or_false] at member
      rcases member with rfl | rfl | rfl | rfl
      · cases input
      · exact other (by decide) (by decide) named
      · -- properties of the name of a node type would be two definitions of one name
        have same := (eq_of_updateInputName (by decide) named).2
        have object : types.definition? node.name = some (nodeDefinition paged node) :=
          (Offers.node known).definition?_eq augmented
        have found := interface.definition?_eq augmented
        dsimp only at found
        rw [same, object] at found
        cases found
      · exact other (by decide) (by decide) named
  | connection offered declared inside member =>
      simp only [connectionOffers, List.mem_cons, List.not_mem_nil, or_false] at member
      rcases member with rfl | rfl <;> cases input
  | node => cases input
  | filter => exact other (by decide) (by decide) named
  | fieldInput declared inside member =>
      simp only [fieldInputOffers, List.mem_cons, List.not_mem_nil, or_false] at member
      rcases member with rfl | rfl | rfl
      · exact other (by decide) (by decide) named
      · exact other (by decide) (by decide) named
      · exact other (by decide) (by decide) named
  | creation => exact other (by decide) (by decide) named
  | @change changed declared updatable =>
      have same := (eq_of_updateInputName (by decide) named).2
      have here : changed = node :=
        List.inj_on_of_nodup_map (nodeNames_nodup augmented built) declared known same
      exact here ▸ updatable
  | connectionChange declared member =>
      unfold updateConnectionOffers at member
      rcases List.mem_append.mp member with entry | whole
      · obtain ⟨_, -, rfl⟩ := List.mem_map.mp entry
        exact other (by decide) (by decide) named
      · split at whole
        · cases whole
        · cases List.mem_singleton.mp whole
          exact other (by decide) (by decide) named
  | response declared member =>
      simp only [responseOffers, List.mem_cons, List.not_mem_nil, or_false] at member
      rcases member with rfl | rfl <;> cases input
  | root member =>
      unfold rootOffers at member
      rcases List.mem_cons.mp member with rfl | mutation
      · cases input
      · split at mutation
        · cases mutation
        · cases List.mem_singleton.mp mutation
          cases input

/-- A type without properties and relationships has no input for updates, and no other input bears
the name of one. -/
theorem changeNames_eq (built : types.build = .ok ()) (known : node ∈ model.nodes) :
    types.inputNames (updateInputName node.name) =
      node.fields.map PropertyField.name ++ node.relationships.map Relationship.name := by
  by_cases updatable : isUpdatable node = true
  · have names := (Offers.change known updatable).inputNames_eq augmented rfl
    rw [List.map_append, optionalNames_eq, relationshipInputNames_eq] at names
    exact names
  · have bare : node.fields = [] ∧ node.relationships = [] := by
      simpa [isUpdatable] using updatable
    rw [bare.1, bare.2]
    unfold TypeSystem.inputNames
    cases found : types.definition? (updateInputName node.name) with
    | none => rfl
    | some type =>
        have offers := (mem_definitions_iff augmented).mp (List.mem_of_find?_eq_some found)
        have named : type.name = updateInputName node.name := by
          unfold TypeSystem.definition? at found
          simpa using List.find?_some found
        exact if_neg fun input => updatable (offers.updatable augmented built known input named)

/-- The entries for nodes to create and to connect have one field each besides the properties. -/
theorem entryNames_eq (known : node ∈ model.nodes) (inside : relationship ∈ node.relationships)
    {ending : String} (entry : ending = "CreateFieldInput" ∨ ending = "ConnectFieldInput") :
    "properties" ∈ types.inputNames (relationshipInputName node.name relationship.name ending) ↔
      (model.offeredProperties? paged relationship).isSome = true := by
  have created : model.Offers paged _ := .fieldInput known inside (List.mem_cons_self ..)
  have connected : model.Offers paged _ :=
    .fieldInput known inside (List.mem_cons_of_mem _ (List.mem_cons_self ..))
  rcases entry with rfl | rfl
  · have names := created.inputNames_eq augmented rfl
    dsimp only [inputOffer] at names
    rw [names]
    cases model.offeredProperties? paged relationship <;> simp
  · have names := connected.inputNames_eq augmented rfl
    dsimp only [inputOffer] at names
    rw [names]
    cases model.offeredProperties? paged relationship <;> simp

theorem propertiesNames_eq (offered : paged = true) {type : PropertiesType}
    (known : type ∈ model.properties) :
    types.inputNames (propertiesInputName type.name) = type.fields.map PropertyField.name ∧
      types.inputNames (updateInputName type.name) = type.fields.map PropertyField.name := by
  have change : inputOffer (updateInputName type.name) _ ∈ type.offers :=
    List.mem_cons_of_mem _ (List.mem_cons_of_mem _ (List.mem_cons_self ..))
  have creation : inputOffer (propertiesInputName type.name) _ ∈ type.offers :=
    List.mem_cons_of_mem _ (List.mem_cons_of_mem _ (List.mem_cons_of_mem _ (List.mem_cons_self ..)))
  constructor
  · have names := (Offers.properties offered known creation).inputNames_eq augmented rfl
    exact names.trans (optionalNames_eq _)
  · have names := (Offers.properties offered known change).inputNames_eq augmented rfl
    exact names.trans (optionalNames_eq _)

/-- The update of a node type takes updates of connections if it has connections to update. -/
theorem connectionInput_eq (built : types.build = .ok ()) (known : node ∈ model.nodes) :
    types.argumentType? (updateFieldName node.name) "updateConnection" =
      if (model.updatableConnections paged node).isEmpty then none
      else some
        { kind := .input
          name := updateConnectionInputName node.name
          fields := (model.updatableConnections paged node).map fun entry =>
            ⟨entry.1.name, Graphql.optionalList (connectionEntryName node entry.1), []⟩ } := by
  have some_ : model.nodes.isEmpty = false := by
    cases same : model.nodes with
    | nil =>
        rw [same] at known
        cases known
    | cons => rfl
  have root : objectOffer TypeSystem.mutationName
      (model.nodes.flatMap fun node => [createField node, model.updateField paged node]) ∈
        model.rootOffers paged := by
    simp [rootOffers, some_]
  have found := (Offers.root root).definition?_eq augmented
  have names := offered_names_nodup augmented built _ (List.mem_append_right _ root)
  have field : model.updateField paged node ∈
      (model.nodes.flatMap fun node => [createField node, model.updateField paged node]) :=
    List.mem_flatMap.mpr ⟨node, known, by simp⟩
  have named := find?_name_of_mem names field
  dsimp only [objectOffer] at found named
  unfold TypeSystem.argumentType? TypeDefinition.field?
  rw [found, Option.bind_eq_bind, Option.bind_some, Option.bind_eq_bind]
  dsimp only
  rw [show updateFieldName node.name = (model.updateField paged node).name from rfl, named,
    Option.bind_some, Option.bind_eq_bind]
  by_cases none_ : (model.updatableConnections paged node).isEmpty = true
  · have untaken : (model.updateField paged node).argument? "updateConnection" = none := by
      unfold FieldDefinition.argument? updateField
      rw [if_pos none_]
      split <;> simp
    rw [untaken, if_pos none_]
    rfl
  · have taken : (model.updateField paged node).argument? "updateConnection" =
        some ⟨"updateConnection", Graphql.namedType (updateConnectionInputName node.name)⟩ := by
      unfold FieldDefinition.argument? updateField
      rw [if_neg none_]
      split <;> simp
    rw [taken, if_neg none_]
    exact (Offers.connectionChange known (connectionInput_mem none_)).definition?_eq augmented

end

end Model

end GraphGateway.Schema
