import GraphGateway.Proofs.Entries
import GraphGateway.Proofs.Statement.Effect
import GraphGateway.Proofs.Statement.Refusal

/-!
Required properties are never lost.  A mutation that compiles writes nothing but what it asks for:
whatever it creates has a value that is not null for each of its required properties, and no update
puts null in place of one.  A mutation that asks for anything else has no statement.
-/
namespace GraphGateway.Statement

open Cypher Request Schema Settings
open Naming (Holds)

/-- An effect that a write asks for. -/
inductive Effect.Of (model : Model) : Effect → Write → Prop where
  | node {type : NodeType} {entries : Entries Value} (known : type ∈ model.nodes) :
      Of model (.node type.name type.identifier.stored
          ((entries.get? identifierName).filter (!·.isNull)) (propertiesIn type entries))
        ⟨.node type, true, entries⟩
  | relationship {relationship : Relationship} {related : NodeType} {given : Entries Value}
      {properties : List Assignment}
      (assigned : ∀ type, model.propertiesOf? relationship = some type →
        properties = propertyAssignments type given) :
      Of model (.relationship (Basis.stepOf relationship related) properties)
        ⟨.relationship relationship, true, given⟩
  | nodeUpdate {type : NodeType} {entries : Entries Value} (known : type ∈ model.nodes) :
      Of model (.update true (propertiesIn type entries)) ⟨.node type, false, entries⟩
  | relationshipUpdate {relationship : Relationship} {given : Entries Value}
      {properties : List Assignment}
      (assigned : ∀ type, model.propertiesOf? relationship = some type →
        properties = propertyAssignments type given) :
      Of model (.update false properties) ⟨.relationship relationship, false, given⟩

section

variable {basis : Basis}

/-- The properties of a planned relationship are those that its input gives. -/
theorem planProperties_assigned (offered : basis.features.relationshipProperties = true)
    {relationship : Relationship} {path : String} {creating : Bool} {given : Value}
    {accepted : List Assignment}
    (planned : basis.planProperties relationship given path creating = .ok accepted)
    (type : PropertiesType) (found : basis.model.propertiesOf? relationship = some type) :
    accepted = propertyAssignments type ((entriesOf? given).getD []) := by
  have assigned := planProperties_given offered planned
  rw [found] at assigned
  exact (relationshipAssignments_ok_iff.mp assigned).2.2.2

mutual

/-- The effects of a node that is planned are asked for by its input. -/
theorem planNode_effects (offered : basis.features.relationshipProperties = true)
    {node : NodeType} {input : Value} {path : String} {plan : NodePlan}
    (known : node ∈ basis.model.nodes) (planned : basis.planNode node path input = .ok plan)
    {effect : Effect} (member : effect ∈ plan.effects) :
    ∃ write, NodeAsks basis.model node input write ∧ effect.Of basis.model write := by
  obtain ⟨entries, nested, whole, -, -, entered, rfl⟩ := planNode_ok_iff.mp planned
  subst whole
  rcases List.mem_cons.mp member with rfl | inner
  · exact ⟨_, .self, .node known⟩
  · obtain ⟨entry, inside, among⟩ := EntryPlan.mem_effectsOf.mp inner
    obtain ⟨relationship, here, field, found, path, made, done, placed⟩ :=
      planEntries_of_mem_plans entered inside
    obtain ⟨write, asks, fits⟩ := planFieldInput_effects offered done placed among
    exact ⟨write, .nested here found asks, fits⟩
  termination_by sizeOf input
  decreasing_by
    subst_vars
    exact sizeOf_get?_lt found

theorem planFieldInput_effects (offered : basis.features.relationshipProperties = true)
    {relationship : Relationship} {input : Value} {path : String} {plans : List EntryPlan}
    (planned : basis.planFieldInput relationship path input = .ok plans) {plan : EntryPlan}
    (placed : plan ∈ plans) {effect : Effect} (member : effect ∈ plan.effects) :
    ∃ write, FieldAsks basis.model relationship input write ∧ effect.Of basis.model write := by
  obtain ⟨entries, items, whole, ⟨listed, path, item, inside, done⟩ |
    ⟨listed, path, item, inside, done⟩⟩ := planFieldInput_of_mem_plans planned placed
  · subst whole
    obtain ⟨write, asks, fits⟩ := planCreate_effects offered done member
    exact ⟨write, .created listed inside asks, fits⟩
  · subst whole
    obtain ⟨others, related, properties, filter, rfl, -, assigned, -, -, rfl⟩ :=
      (planConnect_ok_iff basis).mp done
    rw [List.mem_singleton.mp member]
    exact ⟨_, .connected listed inside, .relationship (planProperties_assigned offered assigned)⟩
  termination_by sizeOf input
  decreasing_by
    subst_vars
    exact sizeOf_item_lt listed inside

theorem planCreate_effects (offered : basis.features.relationshipProperties = true)
    {relationship : Relationship} {input : Value} {path : String} {plan : EntryPlan}
    (planned : basis.planCreate relationship path input = .ok plan) {effect : Effect}
    (member : effect ∈ plan.effects) :
    ∃ write, CreateAsks basis.model relationship input write ∧ effect.Of basis.model write := by
  obtain ⟨entries, related, properties, inner, node, whole, there, assigned, given, made, rfl⟩ :=
    planCreate_ok_iff.mp planned
  subst whole
  rcases List.mem_cons.mp member with rfl | nested
  · exact ⟨_, .edge, .relationship (planProperties_assigned offered assigned)⟩
  · obtain ⟨write, asks, fits⟩ := planNode_effects offered (Model.node_mem there) made nested
    exact ⟨write, .node there given asks, fits⟩
  termination_by sizeOf input
  decreasing_by
    subst_vars
    exact sizeOf_get?_lt given

end

/-- An update of connections is asked for by an item of one of the lists. -/
theorem planConnectionUpdates_of_mem_updates {node : NodeType} {path : String}
    {entries : List (String × Value)} {updates : List ConnectionUpdate}
    (planned : basis.planConnectionUpdates node path entries = .ok updates)
    {update : ConnectionUpdate} (member : update ∈ updates) :
    ∃ name items item relationship, (name, Value.list items) ∈ entries ∧
      node.relationship? name = some relationship ∧ Value.object item ∈ items ∧
      ∃ path, basis.planConnectionUpdate relationship path (.object item) = .ok update := by
  induction entries generalizing updates with
  | nil =>
      cases planned
      cases member
  | cons entry rest ih =>
      obtain ⟨name, value⟩ := entry
      obtain ⟨relationship, allowed, planned⟩ := Outcome.bind_ok_iff.mp planned
      obtain ⟨items, read, planned⟩ := Outcome.bind_ok_iff.mp planned
      obtain ⟨made, each, planned⟩ := Outcome.bind_ok_iff.mp planned
      obtain ⟨others, left, done⟩ := Outcome.bind_ok_iff.mp planned
      cases done
      rcases List.mem_append.mp member with here | later
      · obtain ⟨path, item, inside, done⟩ := planEach_of_mem_plans each here
        obtain ⟨entries, -, -, -, rfl, -⟩ := (planConnectionUpdate_ok_iff basis).mp done
        have listed := eq_list_of_itemsOf read inside
        exact ⟨name, items, entries, relationship, listed ▸ List.mem_cons_self ..,
          updatableRelationship_ok allowed, inside, path, done⟩
      · obtain ⟨name, items, item, relationship, among, known, inside, path, done⟩ := ih left later
        exact ⟨name, items, item, relationship, List.mem_cons_of_mem _ among, known, inside, path,
          done⟩

/-- The effects of a plan are asked for by its root field. -/
theorem plan_effects (offered : basis.features.relationshipProperties = true) {field : RootField}
    {plan : Plan} (planned : basis.plan field = .ok plan) {effect : Effect}
    (member : effect ∈ plan.effects) :
    ∃ write, Asks basis.model field write ∧ effect.Of basis.model write := by
  cases field with
  | create key typeName inputs response =>
      obtain ⟨node, found, planned⟩ := Outcome.bind_ok_iff.mp planned
      rw [Failure.ofLookup, Outcome.mapError_ok_iff] at found
      obtain ⟨nodes, each, planned⟩ := Outcome.bind_ok_iff.mp planned
      obtain ⟨answer, -, made⟩ := Outcome.bind_ok_iff.mp planned
      cases made
      obtain ⟨nodePlan, inside, among⟩ := List.mem_flatMap.mp member
      obtain ⟨⟨input, index⟩, placed, done⟩ := Outcome.mapM_ok_of_mem_answers each inside
      obtain ⟨write, asks, fits⟩ := planNode_effects offered (Model.node_mem found) done among
      have here : input ∈ inputs := (List.mem_zipIdx' placed).2 ▸ List.getElem_mem _
      exact ⟨write, .create found here asks, fits⟩
  | update key typeName response filter assignments connections =>
      obtain ⟨node, entries, given, nested, updates, condition, answer, found, read, -, entered,
        taken, updated, rfl⟩ := plan_update_ok planned
      rcases List.mem_cons.mp member with rfl | later
      · exact ⟨_, .update found read, .nodeUpdate (Model.node_mem found)⟩
      · rcases List.mem_append.mp later with inner | changed
        · obtain ⟨entry, inside, among⟩ := EntryPlan.mem_effectsOf.mp inner
          obtain ⟨relationship, here, input, there, path, made, done, placed⟩ :=
            planEntries_of_mem_plans entered inside
          obtain ⟨write, asks, fits⟩ := planFieldInput_effects offered done placed among
          exact ⟨write, .nested found read here there asks, fits⟩
        · obtain ⟨update, inside, rfl⟩ := List.mem_map.mp changed
          obtain ⟨name, items, item, relationship, among, known, here, path, done⟩ :=
            planConnectionUpdates_of_mem_updates updated inside
          obtain ⟨others, related, properties, condition, same, -, -, assigned, -, rfl⟩ :=
            (planConnectionUpdate_ok_iff basis).mp done
          cases same
          have properly := planProperties_assigned offered assigned
          rw [entriesOf?_orEmpty_get?] at properly
          exact ⟨_, .connection found taken among known here, .relationshipUpdate properly⟩
  | list key typeName selection filter =>
      obtain ⟨node, -, planned⟩ := Outcome.bind_ok_iff.mp planned
      obtain ⟨condition, -, planned⟩ := Outcome.bind_ok_iff.mp planned
      obtain ⟨fields, -, made⟩ := Outcome.bind_ok_iff.mp planned
      cases made
      cases member
  | lookup key id variants =>
      unfold Basis.plan at planned
      dsimp only at planned
      split at planned
      · cases planned
      · split at planned
        · cases planned
        · obtain ⟨plans, -, made⟩ := Outcome.bind_ok_iff.mp planned
          cases made
          cases member
  | typename key typeName => cases planned

end

/-- A value that is not null is assigned to a stored property of what is created. -/
def Fills (parameters : Entries Value) (written : Written) (stored : String) : Prop :=
  ∃ pattern name value, written.created = some pattern ∧
    (.property pattern.name stored, .parameter name) ∈ written.assignments ∧
    parameters.get? name = some value ∧ value ≠ .null

/-- Null is assigned to a stored property. -/
def Nulls (parameters : Entries Value) (written : Written) (stored : String) : Prop :=
  ∃ owner name, (.property owner stored, .parameter name) ∈ written.assignments ∧
    parameters.get? name = some .null

/-- What carries out a write: the creation of a node under its label, of a relationship under its
type in its direction, or an update. -/
def CarriesOut (written : Written) (write : Write) : Prop :=
  match write.creates, write.place with
  | true, .node type => ∃ name, written.created = some (.node { name, label := some type.name })
  | true, .relationship edge => ∃ pattern, written.created = some (.relationship pattern) ∧
      pattern.label = edge.label ∧ pattern.direction = edge.direction
  | false, _ => written.created = none

/-- What is written keeps what a write requires.  The given values are those of an object, which has
each of its keys once. -/
structure Keeps (model : Model) (parameters : Entries Value) (write : Write) (written : Written) :
    Prop where
  carriesOut : CarriesOut written write
  fills : write.creates = true → ∀ field ∈ write.place.required model,
    Fills parameters written field.stored
  unharmed : write.given.keys.Nodup → ∀ field ∈ write.place.required model,
    ¬ Nulls parameters written field.stored

section

variable {model : Model} {parameters : Entries Value}

/-- Values that are given for the properties of a list under the name of a field, and no others. -/
def Mirrors (given : Entries Value) (properties : List Assignment) (field : PropertyField) : Prop :=
  (∀ value, given.get? field.name = some value →
    ∃ entry ∈ properties, entry.stored = field.stored ∧ entry.value = value) ∧
  ∀ entry ∈ properties, entry.stored = field.stored → entry.value = .null →
    (field.name, .null) ∈ given

theorem mirrors_propertiesIn (sound : model.IsSound) {type : NodeType} (known : type ∈ model.nodes)
    (entries : Entries Value) {field : PropertyField} (member : field ∈ type.fields) :
    Mirrors entries (propertiesIn type entries) field := by
  constructor
  · intro value given
    refine ⟨{ field := field.name, stored := field.stored, value }, ?_, rfl, rfl⟩
    refine List.mem_filterMap.mpr ⟨field, member, ?_⟩
    rw [given]
    rfl
  · intro entry inside same nulled
    obtain ⟨other, among, made⟩ := List.mem_filterMap.mp inside
    obtain ⟨value, given, rfl⟩ := Option.map_eq_some_iff.mp made
    have names : other.name = field.name := by
      rw [← sound.nodeStored type known other among, ← sound.nodeStored type known field member]
      exact same
    rw [← names, ← (show value = .null from nulled)]
    exact Entries.mem_of_get? given

theorem mirrors_propertyAssignments (sound : model.IsSound) {type : PropertiesType}
    (known : type ∈ model.properties) (entries : Entries Value) {field : PropertyField}
    (member : field ∈ type.fields) : Mirrors entries (propertyAssignments type entries) field := by
  constructor
  · intro value given
    refine ⟨{ field := field.stored, stored := field.stored, value }, ?_, rfl, rfl⟩
    refine List.mem_filterMap.mpr ⟨(field.name, value), Entries.mem_of_get? given, ?_⟩
    dsimp only
    rw [sound.properties_field? known member]
    rfl
  · intro entry inside same nulled
    obtain ⟨⟨name, value⟩, given, made⟩ := List.mem_filterMap.mp inside
    obtain ⟨other, found, rfl⟩ := Option.map_eq_some_iff.mp made
    unfold PropertiesType.field? at found
    have among := List.mem_of_find?_eq_some found
    have names : name = field.name := by
      have named := List.find?_some found
      rw [← eq_of_beq named, ← sound.propertyStored type known other among,
        ← sound.propertyStored type known field member]
      exact same
    rw [← names, ← (show value = .null from nulled)]
    exact given

/-- A creation fills what it is given for. -/
theorem fills_of_mirrors {given : Entries Value} {properties : List Assignment}
    {field : PropertyField} (mirrors : Mirrors given properties field)
    (complete : ∃ value, given.get? field.name = some value ∧ value ≠ .null) (pattern : Pattern)
    {first : Expression × Expression} {assignments : List (Expression × Expression)}
    (each : List.Forall₂ (Assigns parameters pattern.name) properties assignments) :
    Fills parameters ⟨some pattern, first :: assignments⟩ field.stored := by
  obtain ⟨value, here, proper⟩ := complete
  obtain ⟨entry, member, same, rfl⟩ := mirrors.1 value here
  obtain ⟨⟨target, source⟩, inside, targets, name, rfl, held⟩ := Outcome.partner_of_mem each member
  refine ⟨pattern, name, entry.value, rfl, List.mem_cons_of_mem _ ?_, held, proper⟩
  rw [← same, ← (show target = _ from targets)]
  exact inside

/-- Assignments put null in place of what is given as null only. -/
theorem null_given_of_mirrors {given : Entries Value} {properties : List Assignment}
    {field : PropertyField} (mirrors : Mirrors given properties field) {owner other name : String}
    {assignments : List (Expression × Expression)}
    (each : List.Forall₂ (Assigns parameters owner) properties assignments)
    (member : (.property other field.stored, .parameter name) ∈ assignments)
    (nulled : parameters.get? name = some .null) : (field.name, .null) ∈ given := by
  obtain ⟨entry, inside, targets, another, same, held⟩ :=
    Outcome.partner_of_mem_others each member
  cases same
  rw [nulled] at held
  injection targets with _ stored
  exact mirrors.2 entry inside stored.symm (Option.some.inj held).symm

theorem not_null_given {write : Write} (lawful : write.IsLawful model)
    (single : write.given.keys.Nodup) {field : PropertyField}
    (needed : field ∈ write.place.required model) : (field.name, .null) ∉ write.given := by
  intro nulled
  have rule := lawful field needed
  split at rule
  · obtain ⟨value, found, proper⟩ := rule
    rw [Entries.get?_eq_some_of_mem single nulled] at found
    exact proper (Option.some.inj found).symm
  · exact rule nulled

theorem required_of_relationship {edge : Relationship} {field : PropertyField}
    (needed : field ∈ (Place.relationship edge).required model) :
    ∃ type, model.propertiesOf? edge = some type ∧ field ∈ type.fields := by
  dsimp only [Place.required] at needed
  cases found : model.propertiesOf? edge with
  | none =>
      rw [found] at needed
      cases needed
  | some type =>
      rw [found] at needed
      exact ⟨type, rfl, (List.mem_filter.mp needed).1⟩

/-- An effect of a lawful write keeps what the write requires. -/
theorem keeps_of_done (sound : model.IsSound) {effect : Effect} {write : Write} {written : Written}
    (fits : effect.Of model write) (lawful : write.IsLawful model)
    (done : effect.Done parameters written) : Keeps model parameters write written := by
  cases fits with
  | @node type entries known =>
      cases done with
      | @node _ name identifier _ _ expression assignments named identified each =>
          refine ⟨⟨name, rfl⟩, fun _ field needed => ?_, fun single field needed => ?_⟩
          · have mirrors := mirrors_propertiesIn sound known entries (List.mem_filter.mp needed).1
            exact fills_of_mirrors mirrors (by simpa using lawful field needed)
              (.node { name, label := some type.name }) each
          · rintro ⟨owner, parameter, member, nulled⟩
            rcases List.mem_cons.mp member with here | later
            · injection here with _ same
              subst same
              cases given : (entries.get? identifierName).filter (!·.isNull) with
              | none =>
                  rw [given] at identified
                  cases identified
              | some value =>
                  rw [given] at identified
                  obtain ⟨other, same, held⟩ := identified
                  cases same
                  rw [nulled] at held
                  cases held
                  cases (Option.filter_eq_some_iff.mp given).2
            · exact not_null_given lawful single needed (null_given_of_mirrors
                (mirrors_propertiesIn sound known _ (List.mem_filter.mp needed).1) each later nulled)
  | @relationship edge related given properties assigned =>
      cases done with
      | @relationship source name target sequence drawn _ _ assignments each =>
          refine ⟨⟨_, rfl, rfl, rfl⟩, fun _ field needed => ?_, fun single field needed => ?_⟩
          · obtain ⟨type, found, inside⟩ := required_of_relationship needed
            have mirrors :=
              mirrors_propertyAssignments sound (Model.properties_mem found) given inside
            rw [← assigned type found] at mirrors
            exact fills_of_mirrors mirrors (by simpa using lawful field needed) (.relationship _) each
          · obtain ⟨type, found, inside⟩ := required_of_relationship needed
            have mirrors :=
              mirrors_propertyAssignments sound (Model.properties_mem found) given inside
            rw [← assigned type found] at mirrors
            rintro ⟨owner, parameter, member, nulled⟩
            rcases List.mem_cons.mp member with here | later
            · cases here
            · exact not_null_given lawful single needed
                (null_given_of_mirrors mirrors each later nulled)
  | @nodeUpdate type entries known =>
      cases done with
      | update owned each =>
          refine ⟨rfl, (nomatch ·), fun single field needed => ?_⟩
          rintro ⟨owner, parameter, member, nulled⟩
          exact not_null_given lawful single needed (null_given_of_mirrors
            (mirrors_propertiesIn sound known _ (List.mem_filter.mp needed).1) each member nulled)
  | @relationshipUpdate edge given properties assigned =>
      cases done with
      | update owned each =>
          refine ⟨rfl, (nomatch ·), fun single field needed => ?_⟩
          rintro ⟨owner, parameter, member, nulled⟩
          obtain ⟨type, found, inside⟩ := required_of_relationship needed
          have mirrors :=
            mirrors_propertyAssignments sound (Model.properties_mem found) given inside
          rw [← assigned type found] at mirrors
          exact not_null_given lawful single needed
            (null_given_of_mirrors mirrors each member nulled)

end

end GraphGateway.Statement

namespace GraphGateway.Service

open Cypher Request Schema Settings Statement

/-- A mutation of a served schema with relationship properties compiles only if every write that it
asks for is lawful, and whatever its statement writes is one of these and keeps what is required.  If
a mutation of the shape that the types of the inputs give asks for a write that is not lawful, it is
refused. -/
theorem Served.required_never_lost {document : Graphql.Document} {features : Features}
    {spareKey : List UInt8} {served : Served}
    (made : Served.ofDocument document features spareKey = .ok served)
    (offered : features.relationshipProperties = true) (field : RootField) :
    (∀ compiled, served.basis.compile field = .ok compiled →
      (∀ write, Asks served.model field write → write.IsLawful served.model) ∧
      ∃ plan, served.basis.plan field = .ok plan ∧
        compiled.text = Clause.text (plan.emit features {}).1 ∧
        ∀ written ∈ Clause.written (plan.emit features {}).1, ∃ write,
          Asks served.model field write ∧
            Keeps served.model compiled.parameters write written) ∧
    (Shaped served.model field → ∀ write, Asks served.model field write →
      ¬ write.IsLawful served.model →
        ∃ failure, served.basis.compile field = .error failure ∧ IsRefusal failure) := by
  obtain ⟨sound, rfl⟩ := Served.sound_of_document made offered
  have sound : served.basis.model.IsSound := sound
  have offered : served.basis.features.relationshipProperties = true := offered
  constructor
  · intro compiled done
    obtain ⟨plan, planned, same⟩ := Outcome.bind_ok_iff.mp done
    cases same
    have lawful : ∀ write, Asks served.model field write → write.IsLawful served.model :=
      fun write asks => asks.lawful sound offered planned
    refine ⟨lawful, plan, planned, rfl, fun written member => ?_⟩
    obtain ⟨effect, inside, performed⟩ := (emit_performs served.features plan).run written member
    obtain ⟨write, asks, fits⟩ := plan_effects offered planned inside
    exact ⟨write, asks, keeps_of_done sound fits (lawful write asks) performed⟩
  · intro shaped write asks broken
    obtain ⟨failure, failed, refusal⟩ := refused_of_not_lawful sound offered shaped asks broken
    exact ⟨failure, Outcome.bind_error_iff.mpr (.inl failed), refusal⟩

/-- Movies with actors, who each need a role. -/
def stageDocument : Graphql.Document :=
  [.interface
    { name := "ActedIn", directives := [⟨"relationshipProperties", []⟩]
      fields := [⟨"role", .nonNull (.named "String"), []⟩] },
   .object
    { name := "Person", directives := []
      fields := [⟨"name", .nonNull (.named "String"), []⟩] },
   .object
    { name := "Movie", directives := []
      fields :=
        [⟨"title", .nonNull (.named "String"), []⟩,
         ⟨"actors", .nonNull (.list (.nonNull (.named "Person"))),
          [⟨"relationship",
            [("type", .string "ACTED_IN" false), ("direction", .enum "IN"),
             ("properties", .string "ActedIn" false)]⟩]⟩] }]

def stage : Served := (Served.ofDocument stageDocument {} []).toOption.get (by decide +kernel)

/-- A request for a movie with an actor, with some properties of the role. -/
def staging (properties : Entries Value) : RootField :=
  .create "createMovies" "Movie"
    [.object
      [("title", .text "Alien"),
       ("actors", .object
        [("create", .list
          [.object
            [("node", .object [("name", .text "Sigourney")]),
             ("properties", .object properties)]])])]]
    { typeName := "CreateMoviesMutationResponse" }

theorem stage_made : Served.ofDocument stageDocument {} [] = .ok stage :=
  Outcome.eq_ok_of_isSome _

def stageActors : Relationship where
  name := "actors"
  type := { name := "Person", isList := true, nonNull := true, itemNonNull := true }
  relatedType := "Person"
  direction := .incoming
  label := "ACTED_IN"
  properties := some "ActedIn"

def stageModel : Model where
  nodes :=
    [{ name := "Person"
       fields := [{ name := "name", type := { name := "String", nonNull := true }, stored := "name" }] },
     { name := "Movie"
       fields := [{ name := "title", type := { name := "String", nonNull := true }, stored := "title" }]
       relationships := [stageActors] }]
  properties :=
    [{ name := "ActedIn"
       fields := [{ name := "role", type := { name := "String", nonNull := true }, stored := "role" }] }]

theorem stage_model : stage.model = stageModel := by
  have told : ((Served.ofDocument stageDocument {} []).toOption.any
      fun served => served.model == stageModel) = true := by
    decide +kernel
  rw [stage_made] at told
  exact eq_of_beq told

theorem stage_basis : stage.basis = ⟨stageModel, {}, codecFor {} []⟩ := by
  rw [Served.basis_of_document stage_made, stage_model]

theorem stage_servable : stage.types.isServable = true := by decide +kernel

theorem stage_movie : ∃ movie, stage.model.node "Movie" = .ok movie ∧
    movie.relationships = [stageActors] := by
  rw [stage_model]
  exact ⟨_, Outcome.eq_ok_of_isSome (by decide), rfl⟩

theorem stage_person : ∃ person, stage.model.related stageActors = .ok person ∧
    person.relationships = [] := by
  rw [stage_model]
  exact ⟨_, Outcome.eq_ok_of_isSome (by decide), rfl⟩

theorem staging_shaped : Shaped stage.model (staging []) := by
  refine .create fun node resolved input member => ?_
  obtain ⟨movie, found, alone⟩ := stage_movie
  rw [found] at resolved
  cases resolved
  rw [List.mem_singleton.mp member]
  refine .mk fun relationship inside field given => ?_
  rw [alone] at inside
  cases List.mem_singleton.mp inside
  cases given
  refine .mk ?_ ?_ ?_
  · intro key known value given
    rcases List.mem_cons.mp known with rfl | known
    · cases given
      exact .list _
    · rw [List.mem_singleton.mp known] at given
      cases given
  · intro items given item within
    cases given
    rw [List.mem_singleton.mp within]
    refine .mk (.object []) fun related there input given _ => ?_
    obtain ⟨person, here, apart⟩ := stage_person
    rw [here] at there
    cases there
    cases given
    refine .mk fun relationship inside => ?_
    rw [apart] at inside
    cases inside
  · intro items given
    cases given

theorem staging_asks : ∃ write, Asks stage.model (staging []) write ∧
    ¬ write.IsLawful stage.model := by
  obtain ⟨movie, found, alone⟩ := stage_movie
  refine ⟨⟨.relationship stageActors, true, []⟩, ?_, ?_⟩
  · exact .create found (List.mem_singleton_self _) (.nested
      (alone ▸ List.mem_singleton_self _) rfl (.created rfl (List.mem_singleton_self _) .edge))
  · intro lawful
    have role : PropertyField.mk "role" { name := "String", nonNull := true } "role" ∈
        (Place.relationship stageActors).required stage.model := by
      rw [stage_model]
      decide +kernel
    obtain ⟨value, given, -⟩ := lawful _ role
    cases given

/-- Two nodes and a relationship are created, each with two properties. -/
theorem staging_planned :
    ∃ plan, stage.basis.plan (staging [("role", .text "Ripley")]) = .ok plan ∧
      (Clause.written (plan.emit {} {}).1).map (fun written => written.assignments.length) =
        [2, 2, 2] := by
  rw [stage_basis]
  exact ⟨_, Outcome.eq_ok_of_isSome (by decide +kernel), by decide +kernel⟩

theorem required_never_lost_staged :
    (∃ compiled plan, stage.basis.compile (staging [("role", .text "Ripley")]) = .ok compiled ∧
      stage.basis.plan (staging [("role", .text "Ripley")]) = .ok plan ∧
      (Clause.written (plan.emit {} {}).1).length = 3 ∧
      ∀ written ∈ Clause.written (plan.emit {} {}).1, ∃ write,
        Asks stage.model (staging [("role", .text "Ripley")]) write ∧
          Keeps stage.model compiled.parameters write written) ∧
    ∃ failure, stage.basis.compile (staging []) = .error failure ∧ IsRefusal failure := by
  constructor
  · obtain ⟨plan, planned, written⟩ := staging_planned
    have done : stage.basis.compile (staging [("role", .text "Ripley")]) = _ :=
      Outcome.bind_ok_iff.mpr ⟨plan, planned, rfl⟩
    obtain ⟨-, other, plannedAgain, -, keeps⟩ :=
      (Served.required_never_lost stage_made rfl (staging [("role", .text "Ripley")])).1 _ done
    cases planned.symm.trans plannedAgain
    have three := congrArg List.length written
    rw [List.length_map] at three
    exact ⟨_, plan, done, planned, three, keeps⟩
  · obtain ⟨write, asks, broken⟩ := staging_asks
    exact (Served.required_never_lost stage_made rfl (staging [])).2 staging_shaped write asks broken

end GraphGateway.Service
