import GraphGateway.Proofs.Cypher.Sequenced
import GraphGateway.Proofs.Schema.Pairing
import GraphGateway.Proofs.Service.AllOrNothing
import GraphGateway.Proofs.Statement.Required

/-!
The order of creation.  Every relationship that a mutation creates gets the next number of its
type's counter.  A request can store another number there exactly if the properties type of a
relationship has a property under the name of the numbers.
-/
namespace GraphGateway.Statement

open Cypher Request Schema Settings
open Cypher.Clause (Sequenced Draws Rewrites NumbersOnlyCreated)
open Naming (Ensures)

mutual

/-- What a plan assigns to properties of relationships. -/
def NodePlan.granted : NodePlan → List Assignment
  | .mk _ _ _ _ entries => EntryPlan.grantedOf entries

def EntryPlan.granted : EntryPlan → List Assignment
  | .create _ properties node => properties ++ node.granted
  | .connect _ _ _ properties => properties

def EntryPlan.grantedOf : List EntryPlan → List Assignment
  | [] => []
  | entry :: rest => entry.granted ++ EntryPlan.grantedOf rest

end

def Plan.granted : Plan → List Assignment
  | .create nodes _ => nodes.flatMap NodePlan.granted
  | .update _ _ _ entries connections _ =>
      EntryPlan.grantedOf entries ++ connections.flatMap ConnectionUpdate.properties
  | _ => []

theorem EntryPlan.mem_grantedOf {entry : Assignment} {plans : List EntryPlan} :
    entry ∈ EntryPlan.grantedOf plans ↔ ∃ plan ∈ plans, entry ∈ plan.granted := by
  induction plans with
  | nil => simp [EntryPlan.grantedOf]
  | cons plan rest ih => simp [EntryPlan.grantedOf, ih]

/-- Assignments of which those to counters and to nodes are free. -/
structure Frees (free : Expression × Expression → Prop) : Prop where
  counters : ∀ counter value, free (.counted counter, value)
  nodes : ∀ name stored value, ¬ IsEdge name → free (.property name stored, value)

/-- Properties that are free on whatever they are assigned to. -/
def Spares (free : Expression × Expression → Prop) (properties : List Assignment) : Prop :=
  ∀ entry ∈ properties, ∀ owner value, free (.property owner entry.stored, value)

section

variable {free : Expression × Expression → Prop} {parameters : Entries Value}

theorem Spares.left {first second : List Assignment} (spares : Spares free (first ++ second)) :
    Spares free first := fun entry member => spares entry (List.mem_append_left _ member)

theorem Spares.right {first second : List Assignment} (spares : Spares free (first ++ second)) :
    Spares free second := fun entry member => spares entry (List.mem_append_right _ member)

theorem free_of_assigns {owner : String} {properties : List Assignment}
    {assignments : List (Expression × Expression)}
    (each : List.Forall₂ (Assigns parameters owner) properties assignments)
    (spared : ∀ entry ∈ properties, ∀ value, free (.property owner entry.stored, value)) :
    ∀ assignment ∈ assignments, free assignment := by
  rintro ⟨target, value⟩ member
  obtain ⟨entry, inside, rfl, -⟩ := Outcome.partner_of_mem_others each member
  exact spared entry inside value

end

section

variable (features : Features) (free : Expression × Expression → Prop)

theorem emitPrevious_sequenced (source : String) (step : Step) (start : Option Expression) :
    Ensures (emitPrevious features source step start) fun answer parameters =>
      Sequenced features parameters free answer.1 := by
  cases start with
  | none => exact .pure fun _ => .nil
  | some start =>
      refine .bind (.newName "edge") fun edge => .bind (.newName "previous") fun _ => ?_
      refine .pure fun _ _ ⟨number, same⟩ => .subquery ?_ .nil
      refine .plain rfl ?_ (fun _ member => nomatch member) ?_
      · intro pattern related
        cases related
        exact .inr ⟨number, same⟩
      · exact .quiet rfl rfl rfl (.quiet rfl rfl rfl .nil)

theorem emitLimit_sequenced (limit : Option Value) :
    Ensures (emitLimit limit) fun clauses parameters =>
      Sequenced features parameters free clauses := by
  cases limit with
  | none => exact .pure fun _ => .nil
  | some limit => exact .bind (.bindValue _ _) fun _ => .pure fun _ _ => .quiet rfl rfl rfl .nil

mutual

theorem emitField_sequenced (source : String) : (plan : FieldPlan) →
    Ensures (emitField features source plan) fun answer parameters =>
      Sequenced features parameters free answer.1
  | .property _ _ => .pure fun _ => .nil
  | .related _ step fields => by
      refine .bind (.newName step.field) fun target => .bind (.newName "var") fun _ => ?_
      refine .bind (emitFields_sequenced target fields) fun _ => ?_
      refine .pure fun _ nested _ _ => .subquery (.find (.inl rfl) ?_) .nil
      exact nested.append (.quiet rfl rfl rfl .nil)
  | .connection _ step page sets => by
      refine .bind (emitStart_ensures page.start) fun start => .bind (.newName "edge") fun edge => ?_
      refine .bind (.newName step.field) fun target => .bind (.newName "edges") fun _ => ?_
      refine .bind (emitLimit_sequenced features free page.limit) fun _ => ?_
      refine .bind (emitSets_sequenced edge target sets) fun _ => ?_
      refine .bind (emitPrevious_sequenced features free source step start) fun _ => ?_
      refine .pure fun _ before nested limited _ _ ⟨number, same⟩ _ => .subquery ?_ before
      simp only [List.cons_append, List.nil_append, List.append_assoc]
      refine .find (.inr ⟨number, same⟩) ?_
      refine .quiet rfl rfl rfl (.quiet rfl rfl rfl (.quiet rfl rfl rfl ?_))
      exact limited.append (nested.append (.quiet rfl rfl rfl .nil))

theorem emitFields_sequenced (source : String) : (plans : List FieldPlan) →
    Ensures (emitFields features source plans) fun answer parameters =>
      Sequenced features parameters free answer.1
  | [] => .pure fun _ => .nil
  | plan :: rest => by
      refine .bind (emitField_sequenced source plan) fun _ => ?_
      refine .bind (emitFields_sequenced source rest) fun _ => ?_
      exact .pure fun _ others first => first.append others

theorem emitSets_sequenced (edge target : String) : (sets : List EdgeSetPlan) →
    Ensures (emitSets features edge target sets) fun answer parameters =>
      Sequenced features parameters free answer.1
  | [] => .pure fun _ => .nil
  | .mk _ fields :: rest => by
      refine .bind (emitEdges_sequenced edge target fields) fun _ => ?_
      refine .bind (emitSets_sequenced edge target rest) fun _ => ?_
      exact .pure fun _ others first => first.append others

theorem emitEdges_sequenced (edge target : String) : (plans : List EdgePlan) →
    Ensures (emitEdges features edge target plans) fun answer parameters =>
      Sequenced features parameters free answer.1
  | [] => .pure fun _ => .nil
  | .property _ _ :: rest => by
      refine .bind (emitEdges_sequenced edge target rest) fun _ => ?_
      exact .pure fun _ others => others
  | .node _ fields :: rest => by
      refine .bind (emitFields_sequenced target fields) fun _ => ?_
      refine .bind (emitEdges_sequenced edge target rest) fun _ => ?_
      exact .pure fun _ others first => first.append others

end

theorem emitAnswer_sequenced (response : ResponsePlan) (columns : List String) :
    Ensures (emitAnswer features response columns) fun clauses parameters =>
      Sequenced features parameters free clauses := by
  have inner : Ensures (emitResponse features response) fun answer parameters =>
      Sequenced features parameters free answer.1 := by
    induction response with
    | nil => exact .pure fun _ => .nil
    | cons entry rest ih =>
        refine .bind (emitFields_sequenced features free rootName entry.2) fun _ => ?_
        exact .bind ih fun _ => .pure fun _ others first => first.append others
  exact .bind inner fun _ => .pure fun _ answered => answered.append (.quiet rfl rfl rfl .nil)

theorem emitVariants_sequenced (id : Expression) (variants : List VariantPlan) :
    Ensures (emitVariants features id variants) fun clauses parameters =>
      Sequenced features parameters free clauses := by
  induction variants with
  | nil => exact .pure fun _ => .nil
  | cons variant rest ih =>
      have first : Ensures (emitVariant features id variant) fun clauses parameters =>
          Sequenced features parameters free clauses := by
        refine .bind (emitFields_sequenced features free rootName variant.fields) fun _ => ?_
        refine .pure fun _ nested => .quiet rfl rfl rfl (.quiet rfl rfl rfl ?_)
        exact nested.append (.quiet rfl rfl rfl .nil)
      refine .bind first fun _ => .bind ih fun _ => .pure fun _ others begun => ?_
      refine (begun.append ?_).append others
      split
      · exact .nil
      · exact .quiet rfl rfl rfl .nil

theorem emitReport_sequenced (path edge count report : String) :
    Ensures (emitReport path edge count report) fun clauses parameters =>
      Sequenced features parameters free clauses :=
  .bind (.bindValue _ _) fun _ => .pure fun _ _ => .quiet rfl rfl rfl (.quiet rfl rfl rfl .nil)

theorem emitDraw_draws (label : String) :
    Ensures (emitDraw features label) fun answer parameters =>
      Draws features parameters label answer.2 answer.1 := by
  refine .bind (.newName "sequence") fun counter => .bind (.newName "seq") fun drawn => ?_
  refine .bind (.bindValue _ "sequence_name") fun name => ?_
  exact .pure fun _ held _ _ => ⟨counter, name, held, rfl⟩

/-- A relationship that is created is numbered; its properties are assigned behind its number. -/
theorem emitRelationship_sequenced (source : String) (step : Step) (target : String)
    {properties : List Assignment} (spares : Spares free properties) :
    Ensures (emitRelationship features source step target properties) fun answer parameters =>
      Sequenced features parameters free answer.1 := by
  refine .bind (emitDraw_draws features step.label) fun draw => ?_
  refine .bind (.newName "edge") fun edge => ?_
  refine .bind (emitAssignments_ensures edge properties) fun assignments => ?_
  refine .pure fun parameters assigned ⟨number, same⟩ draws => ?_
  have allowed := free_of_assigns assigned fun entry member => spares entry member edge
  exact .relationship draws (.inr ⟨number, same⟩) allowed .nil

mutual

theorem emitNode_sequenced (frees : Frees free) (name : String) (kept : List String) :
    (node : NodePlan) → Spares free node.granted → Ensures (emitNode features name kept node) fun answer parameters =>
        ¬ IsEdge name → Sequenced features parameters free answer.1
  | .mk label identifier id properties entries, spares => by
      refine .bind (emitIdentifier_ensures id) fun expression => ?_
      refine .bind (emitAssignments_ensures name properties) fun assignments => ?_
      refine .bind (emitEntries_sequenced frees name entries spares) fun nested => ?_
      refine .pure fun parameters entered assigned _ unlike => ?_
      refine .quiet rfl rfl rfl (.set ?_ (.quiet rfl rfl rfl entered))
      intro assignment member
      rcases List.mem_cons.mp member with rfl | later
      · exact frees.nodes name identifier expression unlike
      · exact free_of_assigns assigned
          (fun entry _ value => frees.nodes name entry.stored value unlike) assignment later

theorem emitEntry_sequenced (frees : Frees free) (source : String) :
    (entry : EntryPlan) → Spares free entry.granted →
    Ensures (emitEntry features source entry) fun answer parameters =>
      Sequenced features parameters free [answer.1]
  | .create step properties node, spares => by
      refine .bind (.newName "create") fun target => .bind (.newName "matches") fun _ => ?_
      refine .bind (emitNode_sequenced frees target [source] node spares.right) fun _ => ?_
      refine .bind (emitRelationship_sequenced features free source step target spares.left)
        fun _ => ?_
      refine .pure fun parameters related created _ ⟨number, same⟩ => .subquery ?_ .nil
      have unlike : ¬ IsEdge target := same ▸ not_isEdge_of_base (by decide) number
      exact ((created unlike).append related).append (.quiet rfl rfl rfl .nil)
  | .connect step path filter properties, spares => by
      refine .bind (.newName "connect") fun target => .bind (.newName "count") fun count => ?_
      refine .bind (.newName "matches") fun report => ?_
      refine .bind (emitConditions_ensures target filter) fun conditions => ?_
      refine .bind (emitRelationship_sequenced features free source step target spares) fun made => ?_
      refine .bind (emitReport_sequenced features free path made.2 count report) fun reported => ?_
      refine .pure fun parameters reporting related _ _ _ _ => .subquery (.quiet rfl rfl rfl ?_) .nil
      exact ((Sequenced.filtering conditions).append related).append reporting

theorem emitEntries_sequenced (frees : Frees free) (source : String) :
    (entries : List EntryPlan) →
    Spares free (EntryPlan.grantedOf entries) →
    Ensures (emitEntries features source entries) fun answer parameters =>
      Sequenced features parameters free answer.1
  | [], _ => .pure fun _ => .nil
  | entry :: rest, spares => by
      refine .bind (emitEntry_sequenced frees source entry spares.left) fun _ => ?_
      refine .bind (emitEntries_sequenced frees source rest spares.right) fun _ => ?_
      exact .pure fun _ others first => first.append others

end

variable {free}

theorem emitConnectionUpdates_sequenced (source : String) {updates : List ConnectionUpdate}
    (spares : Spares free (updates.flatMap ConnectionUpdate.properties)) :
    Ensures (emitConnectionUpdates source updates) fun answer parameters =>
      Sequenced features parameters free answer.1 := by
  induction updates with
  | nil => exact .pure fun _ => .nil
  | cons update rest ih =>
      rw [List.flatMap_cons] at spares
      have first : Ensures (emitConnectionUpdate source update) fun answer parameters =>
          Sequenced features parameters free [answer.1] := by
        refine .bind (.newName "edge") fun edge => .bind (.newName "node") fun target => ?_
        refine .bind (.newName "count") fun count => .bind (.newName "matches") fun report => ?_
        refine .bind (emitConditions_ensures target update.filter) fun conditions => ?_
        refine .bind (emitAssignments_ensures edge update.properties) fun assignments => ?_
        refine .bind (emitReport_sequenced features free update.path edge count report) fun _ => ?_
        refine .pure fun parameters reporting assigned _ _ _ _ ⟨number, same⟩ => .subquery ?_ .nil
        have allowed := free_of_assigns assigned fun entry member => spares.left entry member edge
        refine .find (.inr ⟨number, same⟩) ?_
        exact ((Sequenced.filtering conditions).append (.setting allowed)).append reporting
      refine .bind first fun _ => .bind (ih spares.right) fun _ => ?_
      exact .pure fun _ others begun => begun.append others

theorem not_isEdge_rootName : ¬ IsEdge rootName :=
  not_isEdge_of_head rfl (show 't' ≠ 'e' by decide)

theorem not_isEdge_root (index : Nat) : ¬ IsEdge s!"{rootName}{index}" := by
  refine not_isEdge_of_head ?_ (show 't' ≠ 'e' by decide)
  simp only [rootName, String.toList_append]
  rfl

theorem emitRoots_sequenced (frees : Frees free) (index : Nat) {nodes : List NodePlan}
    (spares : Spares free (nodes.flatMap NodePlan.granted)) :
    Ensures (emitRoots features index nodes) fun answer parameters =>
      Sequenced features parameters free answer.1 := by
  induction nodes generalizing index with
  | nil => exact .pure fun _ => .nil
  | cons node rest ih =>
      rw [List.flatMap_cons] at spares
      refine .bind (emitNode_sequenced features free frees _ [] node spares.left) fun _ => ?_
      refine .bind (ih (index + 1) spares.right) fun _ => ?_
      refine .pure fun _ others made => .subquery ?_ others
      exact (made (not_isEdge_root index)).append (.quiet rfl rfl rfl .nil)

/-- The clauses of a plan number every relationship that they create; what else they assign to
relationships is granted by the plan. -/
theorem emit_sequenced (frees : Frees free) {plan : Plan} (spares : Spares free plan.granted) :
    Ensures (plan.emit features) fun clauses parameters =>
      Sequenced features parameters free clauses := by
  cases plan with
  | list label filter fields =>
      refine .bind (emitConditions_ensures rootName filter) fun conditions => ?_
      refine .bind (emitFields_sequenced features free rootName fields) fun _ => ?_
      refine .pure fun _ nested _ => .quiet rfl rfl rfl ?_
      exact ((Sequenced.filtering conditions).append nested).append (.quiet rfl rfl rfl .nil)
  | lookup id variants =>
      refine .bind (.bindValue id "id") fun id => ?_
      refine .bind (emitVariants_sequenced features free id variants) fun _ => ?_
      refine .pure fun _ found _ => .subquery found ?_
      exact .quiet rfl rfl rfl (.quiet rfl rfl rfl .nil)
  | create nodes response =>
      refine .bind (emitRoots_sequenced features frees 0 spares) fun _ => ?_
      refine .bind (emitAnswer_sequenced features free response _) fun _ => ?_
      refine .pure fun _ answered made => (made.append ?_).append answered
      exact .quiet rfl rfl rfl (.quiet rfl rfl rfl (.quiet rfl rfl rfl .nil))
  | update label filter assignments entries connections response =>
      refine .bind (emitConditions_ensures rootName filter) fun conditions => ?_
      refine .bind (emitAssignments_ensures rootName assignments) fun _ => ?_
      refine .bind (emitEntries_sequenced features free frees rootName entries spares.left)
        fun _ => ?_
      refine .bind (emitConnectionUpdates_sequenced features rootName spares.right) fun _ => ?_
      refine .bind (emitAnswer_sequenced features free response _) fun _ => ?_
      refine .pure fun _ answered updated entered assigned _ => .quiet rfl rfl rfl ?_
      have allowed := free_of_assigns assigned fun entry _ value =>
        frees.nodes rootName entry.stored value not_isEdge_rootName
      refine Sequenced.append ?_ answered
      refine Sequenced.append ?_ (.quiet rfl rfl rfl .nil)
      refine Sequenced.append ?_ updated
      refine Sequenced.append ?_ entered
      refine Sequenced.append ?_ (.quiet rfl rfl rfl .nil)
      exact (Sequenced.filtering conditions).append (.setting allowed)

end

/-- A stored property of a type that a relationship of the model has its properties from. -/
def IsGranted (model : Model) (stored : String) : Prop :=
  ∃ node ∈ model.nodes, ∃ relationship ∈ node.relationships, ∃ type,
    model.propertiesOf? relationship = some type ∧
      ∃ field ∈ type.fields, field.stored = stored

section

variable {basis : Basis}

/-- Properties that are accepted for a relationship are properties of its type. -/
theorem planProperties_granted {node : NodeType} {relationship : Relationship} {given : Value}
    {path : String} {creating : Bool} {accepted : List Assignment}
    (planned : basis.planProperties relationship given path creating = .ok accepted)
    (known : node ∈ basis.model.nodes) (member : relationship ∈ node.relationships)
    {entry : Assignment} (inside : entry ∈ accepted) : IsGranted basis.model entry.stored := by
  have assigned := (planProperties_ok_iff basis).mp planned
  cases offered : basis.model.offeredProperties? basis.features.relationshipProperties
      relationship with
  | none =>
      rw [offered] at assigned
      rw [assigned.2] at inside
      cases inside
  | some type =>
      rw [offered] at assigned
      obtain ⟨entries, -, made⟩ := assigned
      obtain ⟨-, -, -, rfl⟩ := relationshipAssignments_ok_iff.mp made
      obtain ⟨⟨name, value⟩, -, found⟩ := List.mem_filterMap.mp inside
      obtain ⟨field, here, rfl⟩ := Option.map_eq_some_iff.mp found
      have found : basis.model.propertiesOf? relationship = some type := by
        unfold Model.offeredProperties? at offered
        split at offered
        · exact offered
        · cases offered
      exact ⟨node, known, relationship, member, type, found, field, List.mem_of_find?_eq_some here,
        rfl⟩

mutual

/-- What a planned node grants to relationships are properties of their types. -/
theorem planNode_granted {node : NodeType} {input : Value} {path : String} {plan : NodePlan}
    (known : node ∈ basis.model.nodes) (planned : basis.planNode node path input = .ok plan)
    {entry : Assignment} (member : entry ∈ plan.granted) :
    IsGranted basis.model entry.stored := by
  obtain ⟨entries, nested, whole, -, -, entered, rfl⟩ := planNode_ok_iff.mp planned
  subst whole
  obtain ⟨made, inside, among⟩ := EntryPlan.mem_grantedOf.mp member
  obtain ⟨relationship, here, field, found, path, plans, done, placed⟩ :=
    planEntries_of_mem_plans entered inside
  exact planFieldInput_granted known here done placed among
  termination_by sizeOf input
  decreasing_by
    subst_vars
    exact sizeOf_get?_lt found

theorem planFieldInput_granted {node : NodeType} {relationship : Relationship} {input : Value}
    {path : String} {plans : List EntryPlan} (known : node ∈ basis.model.nodes)
    (related : relationship ∈ node.relationships)
    (planned : basis.planFieldInput relationship path input = .ok plans) {plan : EntryPlan}
    (placed : plan ∈ plans) {entry : Assignment} (member : entry ∈ plan.granted) :
    IsGranted basis.model entry.stored := by
  obtain ⟨entries, items, whole, ⟨listed, path, item, inside, done⟩ |
    ⟨listed, path, item, inside, done⟩⟩ := planFieldInput_of_mem_plans planned placed
  · subst whole
    exact planCreate_granted known related done member
  · obtain ⟨_, _, properties, filter, -, -, assigned, -, -, rfl⟩ :=
      (planConnect_ok_iff basis).mp done
    exact planProperties_granted assigned known related member
  termination_by sizeOf input
  decreasing_by
    subst_vars
    exact sizeOf_item_lt listed inside

theorem planCreate_granted {node : NodeType} {relationship : Relationship} {input : Value}
    {path : String} {plan : EntryPlan} (known : node ∈ basis.model.nodes)
    (related : relationship ∈ node.relationships)
    (planned : basis.planCreate relationship path input = .ok plan) {entry : Assignment}
    (member : entry ∈ plan.granted) : IsGranted basis.model entry.stored := by
  obtain ⟨entries, target, properties, inner, made, whole, there, assigned, given, nested, rfl⟩ :=
    planCreate_ok_iff.mp planned
  subst whole
  rcases List.mem_append.mp member with here | inside
  · exact planProperties_granted assigned known related here
  · exact planNode_granted (Model.node_mem there) nested inside
  termination_by sizeOf input
  decreasing_by
    subst_vars
    exact sizeOf_get?_lt given

end

/-- What a planned root field grants to relationships are properties of their types. -/
theorem plan_granted {field : RootField} {plan : Plan} (planned : basis.plan field = .ok plan)
    {entry : Assignment} (member : entry ∈ plan.granted) : IsGranted basis.model entry.stored := by
  cases field with
  | create key typeName inputs response =>
      obtain ⟨node, found, planned⟩ := Outcome.bind_ok_iff.mp planned
      rw [Failure.ofLookup, Outcome.mapError_ok_iff] at found
      obtain ⟨nodes, each, planned⟩ := Outcome.bind_ok_iff.mp planned
      obtain ⟨answer, -, made⟩ := Outcome.bind_ok_iff.mp planned
      cases made
      obtain ⟨nodePlan, inside, among⟩ := List.mem_flatMap.mp member
      obtain ⟨⟨input, index⟩, -, done⟩ := Outcome.mapM_ok_of_mem_answers each inside
      exact planNode_granted (Model.node_mem found) done among
  | update key typeName response filter assignments connections =>
      obtain ⟨node, entries, given, nested, updates, condition, answer, found, -, -, entered, -,
        updated, rfl⟩ := plan_update_ok planned
      have known := Model.node_mem found
      rcases List.mem_append.mp member with inner | changed
      · obtain ⟨made, inside, among⟩ := EntryPlan.mem_grantedOf.mp inner
        obtain ⟨relationship, here, input, -, path, plans, done, placed⟩ :=
          planEntries_of_mem_plans entered inside
        exact planFieldInput_granted known here done placed among
      · obtain ⟨update, inside, among⟩ := List.mem_flatMap.mp changed
        obtain ⟨name, items, item, relationship, -, there, -, path, done⟩ :=
          planConnectionUpdates_of_mem_updates updated inside
        obtain ⟨_, _, properties, _, -, -, -, assigned, -, rfl⟩ :=
          (planConnectionUpdate_ok_iff basis).mp done
        exact planProperties_granted assigned known (List.mem_of_find?_eq_some there) among
  | list key typeName selection filter =>
      obtain ⟨node, -, planned⟩ := Outcome.bind_ok_iff.mp planned
      obtain ⟨condition, -, planned⟩ := Outcome.bind_ok_iff.mp planned
      obtain ⟨fields, -, made⟩ := Outcome.bind_ok_iff.mp planned
      cases made
      cases member
  | lookup key id variants =>
      unfold Basis.plan at planned
      dsimp only at planned
      split at planned
      · cases planned
      · split at planned
        · cases planned
        · obtain ⟨plans, -, made⟩ := Outcome.bind_ok_iff.mp planned
          cases made
          cases member
  | typename key typeName => cases planned

/-- An update that gives a property of all relationships of a kind another value. -/
def rewriting (node : NodeType) (relationship : Relationship) (name : String) : RootField :=
  .update "rewrite" node.name { typeName := updateResponseName node.name } .null (.object [])
    (.object
      [(relationship.name,
        .list [.object [("where", .object []), ("properties", .object [(name, .int 0)])]])])

theorem planEntries_nil (node : NodeType) (path : String) :
    basis.planEntries node path [] = .ok [] := by
  rw [planEntries_eq]
  have each : ∀ relationships : List Relationship,
      ∃ lists, relationships.mapM (basis.planRelationship path []) = .ok lists ∧
        lists.flatten = [] := by
    intro relationships
    induction relationships with
    | nil => exact ⟨[], rfl, rfl⟩
    | cons relationship rest ih =>
        obtain ⟨lists, done, empty⟩ := ih
        refine ⟨[] :: lists, ?_, by simpa using empty⟩
        rw [List.mapM_cons, done]
        rfl
  obtain ⟨lists, done, empty⟩ := each node.relationships
  rw [done, Outcome.map_ok_iff]
  exact ⟨lists, rfl, empty⟩

section

variable {node related : NodeType} {relationship : Relationship} {type : PropertiesType}
  {field : PropertyField}

theorem planConnectionUpdate_rewriting (offered : basis.features.relationshipProperties = true)
    (there : basis.model.related relationship = .ok related)
    (typed : basis.model.propertiesOf? relationship = some type)
    (named : type.field? field.name = some field) (path : String) :
    basis.planConnectionUpdate relationship path
        (.object [("where", .object []), ("properties", .object [(field.name, .int 0)])]) =
      .ok
        { step := Basis.stepOf relationship related, path, filter := []
          properties := [{ field := field.stored, stored := field.stored, value := .int 0 }] } := by
  have offers : basis.model.offeredProperties? basis.features.relationshipProperties relationship =
      some type := by
    unfold Model.offeredProperties?
    rw [offered, if_pos rfl, typed]
  have accepted : relationshipAssignments type path false [(field.name, .int 0)] =
      .ok [{ field := field.stored, stored := field.stored, value := .int 0 }] := by
    apply relationshipAssignments_ok_iff.mpr
    simp [Entries.keys, nulledProperty?, propertyAssignments, named, Value.isNull]
  apply (planConnectionUpdate_ok_iff basis).mpr
  refine ⟨_, related, _, [], rfl, there, rfl, ?_, rfl, rfl⟩
  rw [planProperties_ok_iff, offers]
  exact ⟨_, rfl, accepted⟩

theorem planEach_singleton {α : Type} {plan : String → Value → Except Failure α} {item : Value}
    {made : String → α} (path key : String) (planned : ∀ path, plan path item = .ok (made path)) :
    ∃ place, Basis.planEach path key plan [item] = .ok [made place] :=
  ⟨_, Outcome.mapM_ok_iff.mpr (.cons (planned _) .nil)⟩

theorem plan_rewriting (offered : basis.features.relationshipProperties = true)
    (found : basis.model.node node.name = .ok node)
    (known : node.relationship? relationship.name = some relationship)
    (there : basis.model.related relationship = .ok related)
    (typed : basis.model.propertiesOf? relationship = some type)
    (named : type.field? field.name = some field) :
    ∃ path, basis.plan (rewriting node relationship field.name) =
      .ok (.update node.name [] [] []
        [{ step := Basis.stepOf relationship related, path, filter := []
           properties := [{ field := field.stored, stored := field.stored, value := .int 0 }] }]
        []) := by
  have allowed : basis.updatableRelationship node relationship.name "rewrite" = .ok relationship := by
    unfold Basis.updatableRelationship
    simp [offered, known, typed]
  have updated : ∃ path, basis.planConnectionUpdates node "rewrite"
      [(relationship.name,
        .list [.object [("where", .object []), ("properties", .object [(field.name, .int 0)])]])] =
      .ok [{ step := Basis.stepOf relationship related, path, filter := []
             properties := [{ field := field.stored, stored := field.stored, value := .int 0 }] }] := by
    obtain ⟨path, first⟩ := planEach_singleton _ "updateConnection"
      (planConnectionUpdate_rewriting offered there typed named)
    refine ⟨path, Outcome.bind_ok_iff.mpr ⟨relationship, allowed, ?_⟩⟩
    refine Outcome.bind_ok_iff.mpr ⟨_, itemsOf_list _, ?_⟩
    exact Outcome.bind_ok_iff.mpr ⟨_, first, rfl⟩
  obtain ⟨path, updated⟩ := updated
  refine ⟨path, Outcome.bind_ok_iff.mpr ⟨node, ?_, ?_⟩⟩
  · rw [Failure.ofLookup, Outcome.mapError_ok_iff, found]
  · refine Outcome.bind_ok_iff.mpr ⟨[], rfl, Outcome.bind_ok_iff.mpr ⟨[], rfl, ?_⟩⟩
    refine Outcome.bind_ok_iff.mpr ⟨(), rfl, ?_⟩
    refine Outcome.bind_ok_iff.mpr ⟨[], planEntries_nil node _, ?_⟩
    refine Outcome.bind_ok_iff.mpr ⟨_, rfl, Outcome.bind_ok_iff.mpr ⟨_, updated, ?_⟩⟩
    have unset : propertiesIn node [] = [] := by simp [propertiesIn]
    rw [unset]
    rfl

end

end

/-- The updates of relationships in a plan. -/
def Plan.updates : Plan → List ConnectionUpdate
  | .update _ _ _ _ connections _ => connections
  | _ => []

theorem emitConnectionUpdate_rewrites (source : String) (update : ConnectionUpdate) :
    Ensures (emitConnectionUpdate source update) fun answer _ =>
      ∀ entry ∈ update.properties, Rewrites entry.stored answer.1 := by
  refine .bind (.newName "edge") fun edge => .bind (.newName "node") fun target => ?_
  refine .bind (.newName "count") fun count => .bind (.newName "matches") fun report => ?_
  refine .bind (emitConditions_ensures target update.filter) fun conditions => ?_
  refine .bind (emitAssignments_ensures edge update.properties) fun assignments => ?_
  refine .bind (emitReport_reads update.path edge count report) fun reported => ?_
  refine .pure fun parameters _ assigned _ _ _ _ _ entry member => ?_
  obtain ⟨⟨owner, value⟩, inside, same, -⟩ := Outcome.partner_of_mem assigned member
  cases same
  let pattern : RelationshipPattern :=
    { source, direction := update.step.direction, name := edge, label := update.step.label
      target := { name := target, label := some update.step.target } }
  have some_ : assignments.isEmpty = false := List.isEmpty_eq_false_iff_exists_mem.mpr ⟨_, inside⟩
  refine ⟨[source], pattern, Clause.filtering conditions, assignments, reported, value, ?_, ?_,
    inside⟩
  · simp only [Clause.setting, some_, Bool.false_eq_true, if_false, List.append_assoc]
    rfl
  · intro clause among
    unfold Clause.filtering at among
    split at among
    · cases among
    · exact ⟨conditions, List.mem_singleton.mp among⟩

theorem emitConnectionUpdates_rewrites (source : String) (updates : List ConnectionUpdate) :
    Ensures (emitConnectionUpdates source updates) fun answer _ =>
      ∀ update ∈ updates, ∀ entry ∈ update.properties,
        ∃ clause ∈ answer.1, Rewrites entry.stored clause := by
  induction updates with
  | nil => exact .pure fun _ _ impossible => nomatch impossible
  | cons update rest ih =>
      refine .bind (emitConnectionUpdate_rewrites source update) fun first => .bind ih fun _ => ?_
      refine .pure fun _ others begun other member entry inside => ?_
      rcases List.mem_cons.mp member with rfl | later
      · exact ⟨first.1, List.mem_cons_self .., begun entry inside⟩
      · obtain ⟨clause, among, rewrites⟩ := others other later entry inside
        exact ⟨clause, List.mem_cons_of_mem _ among, rewrites⟩

/-- An update of relationships gives them what they are updated with, were it another number. -/
theorem emit_not_numbersOnlyCreated (features : Features) {plan : Plan} {update : ConnectionUpdate}
    (member : update ∈ plan.updates) {entry : Assignment} (inside : entry ∈ update.properties)
    (named : entry.stored = features.sequenceProperty) (parameters : Entries Value) :
    ¬ NumbersOnlyCreated features parameters (plan.emit features {}).1 := by
  have rewrites : Ensures (plan.emit features) fun clauses _ =>
      ∃ clause ∈ clauses, Rewrites entry.stored clause := by
    cases plan with
    | update label filter assignments entries connections response =>
        refine .bind (emitConditions_ensures rootName filter) fun conditions => ?_
        refine .bind (emitAssignments_ensures rootName assignments) fun _ => ?_
        refine .bind (emitEntries_performs features rootName entries) fun nested => ?_
        refine .bind (emitConnectionUpdates_rewrites rootName connections) fun _ => ?_
        refine .bind (emitAnswer_reads features response _) fun _ => ?_
        refine .pure fun _ _ updated _ _ _ => ?_
        obtain ⟨clause, among, rewriting⟩ := updated update member entry inside
        refine ⟨clause, ?_, rewriting⟩
        simp only [List.mem_cons, List.mem_append]
        exact .inr (.inl (.inl (.inr among)))
    | _ => cases member
  obtain ⟨clause, among, rewriting⟩ := rewrites.run
  exact Clause.not_numbersOnlyCreated (named ▸ rewriting) among

end GraphGateway.Statement

namespace GraphGateway.Service

open Cypher Request Schema Settings Statement
open Cypher.Clause (NumbersCreated NumbersOnlyCreated)

/-- A fact about the clauses and the parameters of every statement that a served schema compiles. -/
def Served.EveryStatement (served : Served) (fact : Entries Value → List Clause → Prop) : Prop :=
  ∀ field compiled, served.basis.compile field = .ok compiled →
    ∃ plan, served.basis.plan field = .ok plan ∧
      compiled.text = Clause.text (plan.emit served.features {}).1 ∧
      fact compiled.parameters (plan.emit served.features {}).1

/-- Every relationship that a statement creates gets the next number of its type's counter at once.
This is the only number that a relationship gets in a statement exactly if no properties type of a
relationship has a property under the name of the numbers. -/
theorem Served.numbers_only_created_iff {document : Graphql.Document} {features : Features}
    {spareKey : List UInt8} {served : Served}
    (made : Served.ofDocument document features spareKey = .ok served)
    (offered : features.relationshipProperties = true) :
    served.EveryStatement (NumbersCreated features) ∧
    (served.EveryStatement (NumbersOnlyCreated features) ↔
      ¬ IsGranted served.model features.sequenceProperty) := by
  obtain ⟨sound, rfl⟩ := Served.sound_of_document made offered
  refine ⟨?_, ?_, ?_⟩
  · intro field compiled done
    obtain ⟨plan, planned, same⟩ := Outcome.bind_ok_iff.mp done
    cases same
    have frees : Frees fun _ => True := ⟨fun _ _ => trivial, fun _ _ _ _ => trivial⟩
    have spares : Spares (fun _ => True) plan.granted := fun _ _ _ _ => trivial
    have sequenced := (emit_sequenced served.features frees spares).run
    exact ⟨plan, planned, rfl, sequenced.numbersCreated frees.counters⟩
  · rintro every ⟨node, known, relationship, member, type, typed, field, inside, named⟩
    have stored : field.stored = field.name :=
      sound.propertyStored type (Model.properties_mem typed) field inside
    obtain ⟨-, -, -, -, -, augmented, built⟩ := Served.of_document made
    have unique := Model.isUniquelyNamed_of_augmented augmented built
    have found : served.basis.model.node node.name = .ok node := by
      show served.model.node node.name = .ok node
      rw [Model.node, unique.node?_eq known]
    have there : node.relationship? relationship.name = some relationship :=
      find?_name_of_mem (unique.relationships node known) member
    obtain ⟨related, leads⟩ := sound.related node known relationship member
    obtain ⟨path, planned⟩ := plan_rewriting offered found there leads typed
      (sound.properties_field? (Model.properties_mem typed) inside)
    obtain ⟨plan, plannedAgain, -, only⟩ := every (rewriting node relationship field.name) _
      (Outcome.bind_ok_iff.mpr ⟨_, planned, rfl⟩)
    cases planned.symm.trans plannedAgain
    exact emit_not_numbersOnlyCreated served.features (List.mem_singleton_self _)
      (List.mem_singleton_self _) named _ only
  · intro alone field compiled done
    obtain ⟨plan, planned, same⟩ := Outcome.bind_ok_iff.mp done
    cases same
    let free : Expression × Expression → Prop := fun assignment =>
      ∀ owner, IsEdge owner → assignment.1 ≠ .property owner served.features.sequenceProperty
    have frees : Frees free := by
      constructor
      · intro counter value owner _ impossible
        cases impossible
      · intro name stored value unlike owner edge same
        cases same
        exact unlike edge
    have spares : Spares free plan.granted := by
      intro entry member name value owner _ same
      exact alone ((Expression.property.inj same).2 ▸ plan_granted planned member)
    have sequenced := (emit_sequenced served.features frees spares).run
    refine ⟨plan, planned, rfl, sequenced.numbersOnlyCreated frees.counters ?_⟩
    intro owner value edge allowed
    exact allowed owner edge rfl

theorem numbers_only_created_iff_staged :
    (∃ compiled, stage.basis.compile (staging [("role", .text "Ripley")]) = .ok compiled) ∧
      stage.EveryStatement (NumbersCreated {}) ∧ stage.EveryStatement (NumbersOnlyCreated {}) := by
  obtain ⟨created, only⟩ := Served.numbers_only_created_iff stage_made rfl
  obtain ⟨plan, planned, -⟩ := staging_planned
  refine ⟨⟨_, Outcome.bind_ok_iff.mpr ⟨plan, planned, rfl⟩⟩, created, only.mpr ?_⟩
  rintro ⟨node, -, relationship, -, type, typed, field, inside, named⟩
  have others : ∀ type ∈ stage.model.properties, ∀ field ∈ type.fields, field.stored ≠ "_seq" := by
    rw [stage_model]
    decide
  exact others type (Model.properties_mem typed) field inside named

/-- Movies with actors, whose roles have a property under the name of their numbers. -/
def recastDocument : Graphql.Document :=
  [.interface
    { name := "ActedIn", directives := [⟨"relationshipProperties", []⟩]
      fields := [⟨"_seq", .named "Int", []⟩] },
   .object
    { name := "Person", directives := []
      fields := [⟨"name", .nonNull (.named "String"), []⟩] },
   .object
    { name := "Movie", directives := []
      fields :=
        [⟨"title", .nonNull (.named "String"), []⟩,
         ⟨"actors", .nonNull (.list (.nonNull (.named "Person"))),
          [⟨"relationship",
            [("type", .string "ACTED_IN" false), ("direction", .enum "IN"),
             ("properties", .string "ActedIn" false)]⟩]⟩] }]

def recast : Served := (Served.ofDocument recastDocument {} []).toOption.get (by decide +kernel)

/-- A request that gives the roles of all actors the number 7. -/
def recastRequest : Graphql.Document :=
  [.operation
    { kind := .mutation, name := none, declarations := [], directives := []
      selections :=
        [.field none "updateMovies"
          [("updateConnection", .object [("actors", .list
            [.object [("where", .object []), ("properties", .object [("_seq", .int "7")])]])])] []
          [.field none "movies" [] [] [.field none "title" [] [] []]]] }]

def recastOperation : Operation :=
  (recast.surface.read recastRequest [] none).toOption.get (by decide +kernel)

theorem recast_reads : recast.Reads recastRequest [] none recastOperation :=
  .of_undeclared (by decide +kernel) (by decide +kernel) (Outcome.eq_ok_of_isSome _)

/-- Whether a plan updates a stored property of relationships. -/
def updatesStored (stored : String) (plan : Plan) : Bool :=
  plan.updates.any fun update => update.properties.any (·.stored == stored)

theorem exists_renumbered_recast :
    Served.ofDocument recastDocument {} [] = .ok recast ∧
    recast.Reads recastRequest [] none recastOperation ∧
    ∃ field ∈ recastOperation.fields, ∃ plan compiled, recast.basis.plan field = .ok plan ∧
      recast.basis.compile field = .ok compiled ∧
      compiled.text = Clause.text (plan.emit {} {}).1 ∧
      ¬ NumbersOnlyCreated {} compiled.parameters (plan.emit {} {}).1 := by
  refine ⟨Outcome.eq_ok_of_isSome _, recast_reads, ?_⟩
  have updating : (recastOperation.fields.any fun field =>
      (recast.basis.plan field).toOption.any (updatesStored "_seq")) = true := by
    decide +kernel
  obtain ⟨field, member, plan, done, planned⟩ := Outcome.exists_ok_of_any updating
  obtain ⟨update, inside, stores⟩ := List.any_eq_true.mp planned
  obtain ⟨entry, among, named⟩ := List.any_eq_true.mp stores
  refine ⟨field, member, plan, _, done, Outcome.bind_ok_iff.mpr ⟨plan, done, rfl⟩, rfl, ?_⟩
  exact emit_not_numbersOnlyCreated {} inside among (eq_of_beq named) _

end GraphGateway.Service
