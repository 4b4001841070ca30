import GraphGateway.Proofs.Schema.Referring

/-!
Legal type systems.  Every object type has the fields of its interfaces.  The other laws are not the
registry's business: it passes on whatever is in no conflict, and what it passes on can be built
exactly if the model says enough, keeps its names apart and uses no name of the system itself in the
wrong place.
-/
namespace GraphGateway.Schema

open Graphql (FieldDefinition TypeDefinition TypeKind TypeSystem describesTypes isStandardName
  isStandardName_made)

namespace Model

variable {model : Model} {paged : Bool} {types : TypeSystem} {type : TypeDefinition}
  {fits : TypeKind → Bool} {node : NodeType} {relationship : Relationship}

/-- A node type is an object type, unless its name is that of a type of the system, which is no
input then. -/
theorem node_resolves (augmented : model.augmented paged = .ok types)
    (declared : node ∈ model.nodes) : types.Resolves TypeKind.isOutput node.name := by
  cases found : Graphql.standardTypes.find? (·.name == node.name) with
  | some type =>
      refine .standard found ?_
      rcases Graphql.standardKind found with kind | kind | ⟨kind, -⟩ <;> rw [kind] <;> rfl
  | none =>
      have other : isStandardName node.name = false := by
        unfold isStandardName
        rw [List.any_eq_false]
        exact List.find?_eq_none.mp found
      exact (Offers.node declared).resolves augmented other rfl

theorem builtinScalars_found : ∀ name ∈ builtinScalars,
    Graphql.standardTypes.find? (·.name == name) = some { kind := .scalar, name } := by
  decide +kernel

/-- Whatever a name in an offered type refers to is there and fits, if the model is linkable. -/
theorem Refers.resolves {name : String} (refers : model.Refers paged fits name)
    (augmented : model.augmented paged = .ok types) (linked : model.IsLinked)
    (linkable : model.IsLinkable paged) : types.Resolves fits name := by
  cases refers with
  | builtin known scalar => exact .standard (builtinScalars_found name known) scalar
  | nodeField declared inside scalar enum =>
      exact leaf_resolves augmented (linked.nodeFields _ declared _ inside)
        (linkable.nodeFields _ declared _ inside) scalar enum
  | propertyField offered declared inside scalar enum =>
      exact leaf_resolves augmented (linked.propertyFields _ declared _ inside)
        (linkable.propertyFields offered _ declared _ inside) scalar enum
  | node declared => exact node_resolves augmented declared
  | edge offered declared inside found =>
      have interface : model.Offers paged _ :=
        .properties offered (properties_mem found) (List.mem_cons_self ..)
      exact interface.resolves augmented
        (linkable.edges offered _ declared _ inside _ found) rfl
  | made offers foreign fit => exact offers.resolves augmented foreign fit

theorem resolved (augmented : model.augmented paged = .ok types) (linked : model.IsLinked)
    (linkable : model.IsLinkable paged) (offers : model.Offers paged type) :
    type.Leads types.Resolves :=
  (Offers.leads linked offers).imp fun _ _ refers => refers.resolves augmented linked linkable

/-- Whether a name is that of an interface which is offered and whose fields a type has. -/
def Implements (model : Model) (paged : Bool) (type : TypeDefinition) (name : String) : Prop :=
  ∃ interface, model.Offers paged interface ∧ interface.name = name ∧
    interface.kind = .interface ∧ interface.fields ⊆ type.fields

theorem node_implements (node : NodeType) :
    ∀ name ∈ (nodeDefinition paged node).interfaces,
      model.Implements paged (nodeDefinition paged node) name := by
  intro name member
  unfold nodeDefinition at member
  dsimp only at member
  split at member
  · next offered =>
    cases List.mem_singleton.mp member
    refine ⟨_, .paging offered (List.mem_cons_self ..), rfl, rfl, ?_⟩
    intro field among
    cases List.mem_singleton.mp among
    exact List.mem_cons_self ..
  · cases member

theorem connection_implements (offered : paged = true) {offer : Offer}
    (member : offer ∈ model.connectionOffers node relationship) :
    ∀ name ∈ offer.type.interfaces, model.Implements paged offer.type name := by
  unfold connectionOffers at member
  simp only [List.mem_cons, List.not_mem_nil, or_false] at member
  rcases member with rfl | rfl
  · cases found : model.propertiesOf? relationship with
    | none => exact fun _ none_ => absurd none_ List.not_mem_nil
    | some properties =>
        intro name among
        cases List.mem_singleton.mp among
        refine ⟨_, .properties offered (properties_mem found) (List.mem_cons_self ..), rfl, rfl, ?_⟩
        exact List.subset_append_right _ _
  · exact fun _ none_ => absurd none_ List.not_mem_nil

/-- Only enums have values, and whatever else is offered implements its interfaces. -/
theorem Offers.shape (offers : model.Offers paged type) :
    (∃ enum ∈ model.enums, type = { kind := .enum, name := enum.name, values := enum.values }) ∨
      type.kind ≠ .enum ∧ type.values = [] ∧
        ∀ name ∈ type.interfaces, model.Implements paged type name := by
  have none_ {type : TypeDefinition} : ∀ name ∈ ([] : List String),
      model.Implements paged type name := fun _ none_ => absurd none_ List.not_mem_nil
  cases offers with
  | enum declared => exact .inl ⟨_, declared, rfl⟩
  | scalar => exact .inr ⟨by simp, rfl, none_⟩
  | paging offered member =>
      simp only [pagingOffers, List.mem_cons, List.not_mem_nil, or_false] at member
      rcases member with rfl | rfl <;> exact .inr ⟨by simp [objectOffer], rfl, none_⟩
  | properties offered declared member =>
      simp only [PropertiesType.offers, List.mem_cons, List.not_mem_nil, or_false] at member
      rcases member with rfl | rfl | rfl | rfl <;> exact .inr ⟨by simp [inputOffer], rfl, none_⟩
  | connection offered _ inside member =>
      have implemented := connection_implements offered member
      simp only [connectionOffers, List.mem_cons, List.not_mem_nil, or_false] at member
      rcases member with rfl | rfl <;> exact .inr ⟨by simp [objectOffer], rfl, implemented⟩
  | node => exact .inr ⟨by simp [nodeDefinition], rfl, node_implements _⟩
  | filter => exact .inr ⟨by simp [whereOffer, inputOffer], rfl, none_⟩
  | fieldInput declared inside member =>
      simp only [fieldInputOffers, List.mem_cons, List.not_mem_nil, or_false] at member
      rcases member with rfl | rfl | rfl <;> exact .inr ⟨by simp [inputOffer], rfl, none_⟩
  | creation => exact .inr ⟨by simp, rfl, none_⟩
  | change => exact .inr ⟨by simp, rfl, none_⟩
  | connectionChange declared member =>
      unfold updateConnectionOffers at member
      rcases List.mem_append.mp member with entry | whole
      · obtain ⟨_, -, rfl⟩ := List.mem_map.mp entry
        exact .inr ⟨by simp [inputOffer], rfl, none_⟩
      · split at whole
        · cases whole
        · cases List.mem_singleton.mp whole
          exact .inr ⟨by simp [inputOffer], rfl, none_⟩
  | response declared member =>
      simp only [responseOffers, List.mem_cons, List.not_mem_nil, or_false] at member
      rcases member with rfl | rfl <;> exact .inr ⟨by simp [objectOffer], rfl, none_⟩
  | root member =>
      unfold rootOffers at member
      rcases List.mem_cons.mp member with rfl | mutation
      · exact .inr ⟨by simp [objectOffer], rfl, none_⟩
      · split at mutation
        · cases mutation
        · cases List.mem_singleton.mp mutation
          exact .inr ⟨by simp [objectOffer], rfl, none_⟩

/-- What is offered is hollow if it has nothing between its braces. -/
theorem Offers.isHollow_iff (offers : model.Offers paged type) :
    type.isHollow = false ↔ (type.kind ≠ .scalar → type.fields ≠ [] ∨ type.values ≠ []) := by
  unfold TypeDefinition.isHollow
  rcases offers.shape with ⟨enum, -, rfl⟩ | ⟨other, none_, -⟩
  · simp
  · cases kind : type.kind <;> simp_all

end Model

end GraphGateway.Schema

namespace GraphGateway.Graphql.TypeSystem

variable {system : TypeSystem} {name : String}

theorem type?_standard {type : TypeDefinition} (known : isStandardName name = true)
    (found : system.type? name = some type) : type ∈ standardTypes ∧ type.name = name := by
  unfold type? at found
  rw [if_pos known] at found
  exact ⟨List.mem_of_mem_filter (List.mem_of_find?_eq_some found), Schema.name_of_find? found⟩

theorem refersTo_eq_true {fits : TypeKind → Bool} {expr : TypeExpr}
    (fit : system.refersTo fits expr = true) :
    ∃ type, system.type? expr.core = some type ∧ fits type.kind = true := by
  unfold refersTo kind? at fit
  cases found : system.type? expr.core with
  | none => simp [found] at fit
  | some type => exact ⟨type, rfl, by simpa [found] using fit⟩

theorem plain_of_refersTo {expr : TypeExpr}
    (fit : system.refersTo TypeKind.isInput expr = true) : describesTypes expr.core = false := by
  obtain ⟨type, found, input⟩ := refersTo_eq_true fit
  rw [Bool.eq_false_iff]
  intro describing
  have known : isStandardName expr.core = true := by
    obtain ⟨type, member, same⟩ := List.any_eq_true.mp describing
    rw [Bool.and_eq_true] at same
    exact List.any_eq_true.mpr ⟨type, List.mem_append_right _ member, same.2⟩
  obtain ⟨member, same⟩ := type?_standard known found
  rcases standardTypes_kinds type member with ⟨-, plain⟩ | ⟨kind, -⟩
  · rw [same, describing] at plain
    cases plain
  · rw [kind] at input
    cases input

theorem foreign_of_refersTo (fit : system.refersTo (· == .interface) (.named name) = true) :
    isStandardName name = false := by
  obtain ⟨type, found, interface⟩ := refersTo_eq_true fit
  rw [Bool.eq_false_iff]
  intro known
  obtain ⟨member, -⟩ := type?_standard known found
  rcases standardTypes_kinds type member with ⟨kind | kind, -⟩ | ⟨kind, -⟩
  all_goals
    rw [kind] at interface
    cases interface

theorem build_ok_iff : system.build = .ok () ↔ (∀ type ∈ system.definitions,
    type.isHollow = false ∧ system.isWellNamed type = true) ∧
      ∀ type ∈ system.own, system.isWellKinded type = true := by
  unfold build
  by_cases hollow : system.definitions.any TypeDefinition.isHollow = true
  · rw [if_pos hollow]
    obtain ⟨type, member, empty⟩ := List.any_eq_true.mp hollow
    constructor
    · intro none_
      cases none_
    · intro legal
      rw [(legal.1 type member).1] at empty
      cases empty
  · rw [if_neg hollow]
    rw [Bool.not_eq_true, List.any_eq_false] at hollow
    simp only [List.all_eq_true, Bool.and_eq_true]
    constructor
    · intro built
      split at built
      · next legal =>
        exact ⟨fun type member => ⟨by simpa using hollow type member, legal.1 type member⟩, legal.2⟩
      · cases built
    · intro legal
      exact if_pos ⟨fun type member => (legal.1 type member).2, legal.2⟩

theorem isWellNamed_of_leads {type : TypeDefinition} (leads : type.Leads system.Resolves)
    (names : (type.fields.map FieldDefinition.name).Nodup) (values : type.values.Nodup) :
    system.isWellNamed type = true := by
  unfold TypeSystem.isWellNamed
  simp only [Bool.and_eq_true, List.all_eq_true, Schema.distinct_iff]
  refine ⟨⟨⟨names, values⟩, fun field member => ?_⟩, fun name member => ?_⟩
  · have resolves := leads.fields field member
    exact ⟨⟨resolves.names, resolves.type.isKnown⟩,
      fun argument among => (resolves.arguments argument among).isKnown⟩
  · exact TypeSystem.Resolves.isKnown (leads.interfaces name member)

theorem isWellKinded_of_leads {type : TypeDefinition} (leads : type.Leads system.Resolves)
    (own : type ∈ system.own) : system.isWellKinded type = true := by
  unfold TypeSystem.isWellKinded
  simp only [Bool.and_eq_true, List.all_eq_true]
  refine ⟨fun field member => ⟨?_, fun argument among => ?_⟩, fun name member => ?_⟩
  · exact (leads.fields field member).type.refersTo (usesScalar_of_field own member)
  · exact ((leads.fields field member).arguments argument among).refersTo
      (usesScalar_of_argument own member among)
  · obtain ⟨other, interface, found, kind⟩ := (leads.interfaces name member).isOwn_of_interface
    unfold refersTo kind? type? TypeExpr.core
    rw [if_neg (by simp [other]), show system.definitions.find? _ = some _ from found]
    simp [kind]

end GraphGateway.Graphql.TypeSystem

namespace GraphGateway.Schema

open Graphql (FieldDefinition TypeDefinition TypeKind TypeSystem isStandardName isStandardName_made)

namespace Model

variable {model : Model} {paged : Bool} {types : TypeSystem}

/-- What a type system that can be built says of its model. -/
theorem IsLinkable.of_build (augmented : model.augmented paged = .ok types)
    (built : types.build = .ok ()) : model.IsLinkable paged := by
  obtain ⟨legal, kinded⟩ := TypeSystem.build_ok_iff.mp built
  have fields : ∀ type, model.Offers paged type → isStandardName type.name = false →
      ∀ field ∈ type.fields, types.refersTo type.kind.admitsField field.type = true := by
    intro type offers other field member
    have own : type ∈ types.own :=
      List.mem_filter.mpr ⟨(mem_definitions_iff augmented).mpr offers, by simp [other]⟩
    have wellKinded := kinded type own
    unfold TypeSystem.isWellKinded at wellKinded
    simp only [Bool.and_eq_true, List.all_eq_true] at wellKinded
    exact (wellKinded.1 field member).1
  constructor
  · intro enum declared
    have wellNamed := (legal _ ((mem_definitions_iff augmented).mpr (.enum declared))).2
    unfold TypeSystem.isWellNamed at wellNamed
    simp only [Bool.and_eq_true] at wellNamed
    exact (distinct_iff _).mp wellNamed.1.1.2
  · intro node declared field member
    have plain := TypeSystem.plain_of_refersTo (fields _ (.creation declared)
      (isStandardName_made _ (by decide)) field.definition
      (List.mem_cons_of_mem _ (List.mem_append_left _ (List.mem_map_of_mem member))))
    rwa [PropertyField.definition, TypeReference.toExpr_core] at plain
  · intro offered type declared field member
    have input : inputOffer (createInputName type.name) _ ∈ type.offers :=
      List.mem_cons_of_mem _ (List.mem_cons_self ..)
    have plain := TypeSystem.plain_of_refersTo (fields _ (.properties offered declared input)
      (isStandardName_made _ (by decide)) field.definition
      (List.mem_map_of_mem member))
    rwa [PropertyField.definition, TypeReference.toExpr_core] at plain
  · intro offered node declared relationship inside type found
    have offers := Offers.connection offered declared inside (List.mem_cons_self ..)
    have foreign : isStandardName (edgeTypeName node.name relationship.name) = false :=
      isStandardName_made _ (by decide)
    have own : _ ∈ types.own :=
      List.mem_filter.mpr ⟨(mem_definitions_iff augmented).mpr offers, by simp [foreign]⟩
    have wellKinded := kinded _ own
    unfold TypeSystem.isWellKinded at wellKinded
    simp only [Bool.and_eq_true, List.all_eq_true] at wellKinded
    exact TypeSystem.foreign_of_refersTo (wellKinded.2 type.name (by simp [found]))

/-- A grown type system can be built exactly if its types are spelt and linked. -/
theorem build_ok_iff (augmented : model.augmented paged = .ok types) (linked : model.IsLinked) :
    types.build = .ok () ↔ model.IsSpellable paged ∧ model.IsLinkable paged := by
  constructor
  · intro built
    refine ⟨(spelt_iff augmented).mp fun type member => ?_, .of_build augmented built⟩
    obtain ⟨inside, wellNamed⟩ := (TypeSystem.build_ok_iff.mp built).1 type member
    unfold TypeSystem.isWellNamed at wellNamed
    simp only [Bool.and_eq_true] at wellNamed
    exact ⟨((mem_definitions_iff augmented).mp member).isHollow_iff.mp inside,
      (distinct_iff _).mp wellNamed.1.1.1⟩
  · rintro ⟨spellable, linkable⟩
    have resolved : ∀ type ∈ types.definitions, type.Leads types.Resolves := fun type member =>
      resolved augmented linked linkable ((mem_definitions_iff augmented).mp member)
    refine TypeSystem.build_ok_iff.mpr ⟨fun type member => ?_, fun type own => ?_⟩
    · have offers := (mem_definitions_iff augmented).mp member
      have spelt := spellable.spelt offers
      refine ⟨offers.isHollow_iff.mpr spelt.inside, ?_⟩
      refine TypeSystem.isWellNamed_of_leads (resolved type member) spelt.names ?_
      rcases offers.shape with ⟨enum, declared, rfl⟩ | ⟨-, none_, -⟩
      · exact linkable.values enum declared
      · rw [none_]
        exact .nil
    · exact TypeSystem.isWellKinded_of_leads (resolved type (List.mem_of_mem_filter own)) own

/-- Whatever a grown type implements is an interface beside it, and it has all fields of that. -/
theorem interfaces_implemented (augmented : model.augmented paged = .ok types) :
    ∀ type ∈ types.definitions, ∀ name ∈ type.interfaces,
      ∃ interface, types.definition? name = some interface ∧ interface.kind = .interface ∧
        interface.fields ⊆ type.fields := by
  intro type member name implemented
  rcases ((mem_definitions_iff augmented).mp member).shape with ⟨enum, -, rfl⟩ | ⟨-, -, shape⟩
  · cases implemented
  · obtain ⟨interface, offers, rfl, kind, fields⟩ := shape name implemented
    exact ⟨interface, offers.definition?_eq augmented, kind, fields⟩

end Model

/-- What holds of every grown type system, what holds of the types of those whose model is
spellable, and when the system can be built. -/
theorem Declared.augmented_legal_iff {document : Graphql.Document} {declared : Declared}
    (read : Declared.ofDocument? document = some declared) {paged : Bool} {types : TypeSystem}
    (augmented : declared.model.augmented paged = .ok types) :
    (∀ type ∈ types.definitions, ∀ name ∈ type.interfaces,
      ∃ interface, types.definition? name = some interface ∧ interface.kind = .interface ∧
        interface.fields ⊆ type.fields) ∧
      ((∀ type ∈ types.definitions, type.IsSpelt) ↔ declared.model.IsSpellable paged) ∧
      (types.build = .ok () ↔
        declared.model.IsSpellable paged ∧ declared.model.IsLinkable paged) :=
  ⟨Model.interfaces_implemented augmented, Model.spelt_iff augmented,
    Model.build_ok_iff augmented (Declared.isLinked read)⟩

/-- Movies with actors, and one more property of a movie. -/
def creditsDocument (extra : String) : Graphql.Document :=
  [.object
    { name := "Movie", directives := []
      fields :=
        [⟨extra, .named "String", []⟩,
         ⟨"actors", .nonNull (.list (.nonNull (.named "Person"))),
          [⟨"relationship",
            [("type", .string "ACTED_IN" false), ("direction", .enum "IN")]⟩]⟩] },
   .object { name := "Person", directives := [], fields := [⟨"name", .named "String", []⟩] }]

/-- The model of these movies and what it grows into. -/
def credits (extra : String) : Option (Declared × TypeSystem) := do
  let declared ← Declared.ofDocument? (creditsDocument extra)
  let types ← (declared.model.augmented true).toOption
  pure (declared, types)

theorem credits_grown {extra : String} {declared : Declared} {types : TypeSystem}
    (grown : credits extra = some (declared, types)) :
    Declared.ofDocument? (creditsDocument extra) = some declared ∧
      declared.model.augmented true = .ok types := by
  obtain ⟨read, here, grown⟩ := Option.bind_eq_some_iff.mp grown
  obtain ⟨made, augmented, same⟩ := Option.bind_eq_some_iff.mp grown
  cases same
  exact ⟨here, Outcome.toOption_eq_some_iff.mp augmented⟩

theorem augmented_legal_iff_credits :
    ∃ declared types, Declared.ofDocument? (creditsDocument "title") = some declared ∧
      declared.model.augmented true = .ok types ∧ types.build = .ok () ∧
      declared.model.IsSpellable true ∧ declared.model.IsLinkable true ∧
      (∀ type ∈ types.definitions, type.IsSpelt) ∧
      ∀ type ∈ types.definitions, ∀ name ∈ type.interfaces,
        ∃ interface, types.definition? name = some interface ∧ interface.kind = .interface ∧
          interface.fields ⊆ type.fields := by
  have grown : ((credits "title").any fun made => made.2.build.toOption.isSome) = true := by
    decide +kernel
  obtain ⟨⟨declared, types⟩, found, built⟩ := (Option.any_eq_true _ _).mp grown
  have legal := Outcome.eq_ok_of_isSome built
  obtain ⟨read, augmented⟩ := credits_grown found
  obtain ⟨implemented, spelt, builds⟩ := Declared.augmented_legal_iff read augmented
  obtain ⟨spellable, linkable⟩ := builds.mp legal
  exact ⟨declared, types, read, augmented, legal, spellable, linkable, spelt.mpr spellable,
    implemented⟩

/-- Whether a model without problems grows into a type of movies that has a field twice. -/
def repeatsField (declared : Declared) (types : TypeSystem) : Bool :=
  ((Service.Served.problemsOf declared {}).toOption.any List.isEmpty) &&
    types.build == .error .unbuildable &&
    types.definitions.any fun type =>
      type.name == "Movie" && type.fields.map FieldDefinition.name ==
        ["id", "actorsConnection", "actors", "actorsConnection"]

theorem exists_repeated_field_credits :
    ∃ declared types, Declared.ofDocument? (creditsDocument "actorsConnection") = some declared ∧
      Service.Served.problemsOf declared {} = .ok [] ∧
      declared.model.augmented true = .ok types ∧ types.build = .error .unbuildable ∧
      ∃ type ∈ types.definitions, type.name = "Movie" ∧ type.fields.map FieldDefinition.name =
        ["id", "actorsConnection", "actors", "actorsConnection"] ∧ ¬ type.IsSpelt := by
  have grown : ((credits "actorsConnection").any fun made =>
      repeatsField made.1 made.2) = true := by
    decide +kernel
  obtain ⟨⟨declared, types⟩, found, repeated⟩ := (Option.any_eq_true _ _).mp grown
  obtain ⟨read, augmented⟩ := credits_grown found
  simp only [repeatsField, Bool.and_eq_true, beq_iff_eq, List.any_eq_true] at repeated
  obtain ⟨⟨peaceful, refused⟩, type, member, movie, names⟩ := repeated
  obtain ⟨problems, found, empty⟩ := (Option.any_eq_true _ _).mp peaceful
  rw [List.isEmpty_iff.mp empty] at found
  refine ⟨declared, types, read, Outcome.toOption_eq_some_iff.mp found, augmented, refused, type,
    member, movie, names, fun spelt => ?_⟩
  have distinct := spelt.names
  rw [names] at distinct
  exact absurd distinct (by decide)

end GraphGateway.Schema
