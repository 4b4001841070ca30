import GraphGateway.Proofs.Cypher.Paired
import GraphGateway.Proofs.Statement.Required

/-!
Draws of a plan.  The clauses of an entry create one relationship and draw its number; the clauses of
a whole plan draw numbers in pairs with the relationships that they create, and assign nothing else
but properties of what they create or find.
-/
namespace GraphGateway.Statement

open Cypher Request Schema Settings
open Cypher.Clause (Paired)
open Naming (Ensures Holds)

/-- The relationship that an entry creates. -/
def EntryPlan.step : EntryPlan → Step
  | .create step _ _ => step
  | .connect step _ _ _ => step

mutual

/-- The labels of the nodes that a plan writes. -/
def NodePlan.labels : NodePlan → List String
  | .mk label _ _ _ entries => label :: EntryPlan.labelsOf entries

def EntryPlan.labels : EntryPlan → List String
  | .create _ _ node => node.labels
  | .connect _ _ _ _ => []

def EntryPlan.labelsOf : List EntryPlan → List String
  | [] => []
  | entry :: rest => entry.labels ++ EntryPlan.labelsOf rest

end

def Plan.labels : Plan → List String
  | .create nodes _ => nodes.flatMap NodePlan.labels
  | .update label _ _ entries _ _ => label :: EntryPlan.labelsOf entries
  | _ => []

theorem EntryPlan.mem_labelsOf {label : String} {plans : List EntryPlan} :
    label ∈ EntryPlan.labelsOf plans ↔ ∃ plan ∈ plans, label ∈ plan.labels := by
  induction plans with
  | nil => simp [EntryPlan.labelsOf]
  | cons plan rest ih => simp [EntryPlan.labelsOf, ih]

theorem areOf_of_assigns {parameters : Entries Value} {owner : String}
    {properties : List Assignment} {assignments : List (Expression × Expression)}
    (each : List.Forall₂ (Assigns parameters owner) properties assignments) :
    AreOf owner assignments := by
  intro assignment member
  obtain ⟨entry, -, same, -⟩ := Outcome.partner_of_mem_others each member
  exact ⟨entry.stored, same⟩

section

variable (features : Features) (fits : String → Prop)

theorem emitDraw_drawing (label : String) :
    Ensures (emitDraw features label) fun answer parameters =>
      ∃ counter name number, answer.1 =
          .subquery [] (Clause.drawing features counter answer.2 name) ∧
        counter ≠ "" ∧ answer.2 = numbered "seq" number ∧ Holds (.text label) name parameters := by
  refine .bind (.newName "sequence") fun counter => .bind (.newName "seq") fun drawn => ?_
  refine .bind (.bindValue _ "sequence_name") fun name => ?_
  refine .pure fun _ held ⟨number, same⟩ ⟨first, counting⟩ => ?_
  exact ⟨counter, name, number, rfl, counting ▸ numbered_ne_empty _ first, same, held⟩

/-- A relationship is created behind the draw of its number, with others behind it. -/
theorem emitRelationship_paired (source : String) (step : Step) (target : String)
    (properties : List Assignment) :
    Ensures (emitRelationship features source step target properties) fun answer parameters =>
      ∀ rest, Paired features parameters fits none rest →
        Paired features parameters fits (some step.label) (answer.1 ++ rest) := by
  refine .bind (emitDraw_drawing features step.label) fun draw => ?_
  refine .bind (.newName "edge") fun edge => ?_
  refine .bind (emitAssignments_ensures edge properties) fun assignments => ?_
  refine .pure fun parameters assigned ⟨other, edging⟩ => ?_
  rintro ⟨counter, name, number, drawing, counting, drawn, held⟩ rest others
  dsimp only
  rw [drawing]
  have apart : draw.2 ≠ edge := by
    rw [drawn, edging]
    exact fun same => absurd (base_eq_of_numbered_eq same) (by decide)
  let pattern : RelationshipPattern :=
    { source, direction := step.direction, name := edge, label := step.label
      target := { name := target, label := none } }
  have named : edge ≠ "" := edging ▸ numbered_ne_empty _ other
  have owned : AreOf pattern.name assignments := areOf_of_assigns assigned
  exact .relationship held counting (drawn ▸ numbered_ne_empty _ number) named apart owned others

theorem emitConnectionUpdates_paired (source : String) (updates : List ConnectionUpdate) :
    Ensures (emitConnectionUpdates source updates) fun answer parameters =>
      Paired features parameters fits none answer.1 := by
  induction updates with
  | nil => exact .pure fun _ => .nil
  | cons update rest ih =>
      have first : Ensures (emitConnectionUpdate source update) fun answer parameters =>
          ∃ body, answer.1 = .subquery [source] body ∧ Paired features parameters fits none body := by
        refine .bind (.newName "edge") fun edge => .bind (.newName "node") fun target => ?_
        refine .bind (.newName "count") fun count => .bind (.newName "matches") fun report => ?_
        refine .bind (emitConditions_ensures target update.filter) fun conditions => ?_
        refine .bind (emitAssignments_ensures edge update.properties) fun assignments => ?_
        refine .bind (emitReport_reads update.path edge count report) fun reported => ?_
        refine .pure fun parameters reading assigned _ _ _ ⟨other, targeting⟩ ⟨number, edging⟩ =>
          ⟨_, rfl, ?_⟩
        have apart : edge ≠ target := by
          rw [edging, targeting]
          exact fun same => absurd (base_eq_of_numbered_eq same) (by decide)
        have names : (update.step.pattern source edge target).Names fits :=
          ⟨edging ▸ numbered_ne_empty _ number, apart⟩
        exact .found names (areOf_of_assigns assigned) (.of_readsAll reading)
      refine .bind first fun _ => .bind ih fun _ => ?_
      refine .pure fun _ others ⟨body, whole, paired⟩ => ?_
      dsimp only
      rw [whole]
      exact .subquery paired others

variable {fits}

mutual

/-- The clauses of a node create its relationships in subqueries only. -/
theorem emitNode_paired (name : String) (kept : List String) : (node : NodePlan) →
    (∀ label ∈ node.labels, fits label) →
    Ensures (emitNode features name kept node) fun answer parameters =>
      name ≠ "" → Paired features parameters fits none answer.1
  | .mk label identifier id properties entries, fitting => by
      refine .bind (emitIdentifier_ensures id) fun expression => ?_
      refine .bind (emitAssignments_ensures name properties) fun assignments => ?_
      refine .bind (emitEntries_paired name entries fun inner member =>
        fitting inner (List.mem_cons_of_mem _ member)) fun nested => ?_
      refine .pure fun parameters paired assigned _ named => ?_
      have names : Pattern.Names fits (.node { name, label := some label }) :=
        ⟨named, label, rfl, fitting label (List.mem_cons_self ..)⟩
      refine .node names ?_ (.reads rfl paired)
      intro assignment member
      rcases List.mem_cons.mp member with rfl | later
      · exact ⟨identifier, rfl⟩
      · exact areOf_of_assigns assigned assignment later

/-- The clause of an entry is a subquery that creates one relationship, of the entry's type. -/
theorem emitEntry_paired (source : String) : (entry : EntryPlan) →
    (∀ label ∈ entry.labels, fits label) →
    Ensures (emitEntry features source entry) fun answer parameters =>
      ∃ body, answer.1 = .subquery [source] body ∧
        Paired features parameters fits (some entry.step.label) body
  | .create step properties node, fitting => by
      refine .bind (.newName "create") fun target => .bind (.newName "matches") fun _ => ?_
      refine .bind (emitNode_paired target [source] node fitting) fun made => ?_
      refine .bind (emitRelationship_paired features fits source step target properties)
        fun _ => ?_
      refine .pure fun parameters related created _ ⟨number, same⟩ => ⟨_, rfl, ?_⟩
      rw [List.append_assoc]
      have made := created (same ▸ numbered_ne_empty "create" number)
      exact made.append (related _ (.of_readsAll rfl))
  | .connect step path filter properties, _ => by
      refine .bind (.newName "connect") fun target => .bind (.newName "count") fun count => ?_
      refine .bind (.newName "matches") fun report => ?_
      refine .bind (emitConditions_ensures target filter) fun conditions => ?_
      refine .bind (emitRelationship_paired features fits source step target properties)
        fun made => ?_
      refine .bind (emitReport_reads path made.2 count report) fun reported => ?_
      refine .pure fun parameters reading related _ _ _ _ => ⟨_, rfl, .reads rfl ?_⟩
      rw [List.append_assoc]
      have filtering : Clause.readsAll (Clause.filtering conditions) = true := by
        unfold Clause.filtering
        split <;> rfl
      exact (Paired.of_readsAll filtering).append (related _ (.of_readsAll reading))

theorem emitEntries_paired (source : String) : (entries : List EntryPlan) →
    (∀ label ∈ EntryPlan.labelsOf entries, fits label) →
    Ensures (emitEntries features source entries) fun answer parameters =>
      Paired features parameters fits none answer.1
  | [], _ => .pure fun _ => .nil
  | entry :: rest, fitting => by
      refine .bind (emitEntry_paired source entry fun label member =>
        fitting label (List.mem_append_left _ member)) fun _ => ?_
      refine .bind (emitEntries_paired source rest fun label member =>
        fitting label (List.mem_append_right _ member)) fun _ => ?_
      refine .pure fun _ others ⟨body, whole, paired⟩ => ?_
      dsimp only
      rw [whole]
      exact .subquery paired others

end

theorem emitRoots_paired (index : Nat) {nodes : List NodePlan}
    (fitting : ∀ label ∈ nodes.flatMap NodePlan.labels, fits label) :
    Ensures (emitRoots features index nodes) fun answer parameters =>
      Paired features parameters fits none answer.1 := by
  induction nodes generalizing index with
  | nil => exact .pure fun _ => .nil
  | cons node rest ih =>
      rw [List.flatMap_cons, List.forall_mem_append] at fitting
      refine .bind (emitNode_paired features _ [] node fitting.1) fun _ => ?_
      refine .bind (ih (index + 1) fitting.2) fun _ => ?_
      refine .pure fun parameters others made => ?_
      have named : s!"{rootName}{index}" ≠ "" := by
        intro empty
        have chars := congrArg String.toList empty
        simp [rootName, String.toList_append] at chars
      exact .subquery ((made named).append (.of_readsAll rfl)) others

/-- The clauses of a plan are paired, and the nodes that they write are of kinds that fit. -/
theorem emit_paired {plan : Plan} (fitting : ∀ label ∈ plan.labels, fits label) :
    Ensures (plan.emit features) fun clauses parameters =>
      Paired features parameters fits none clauses := by
  cases plan with
  | list label filter fields =>
      refine .bind (emitConditions_ensures rootName filter) fun conditions => ?_
      refine .bind (emitFields_reads features rootName fields) fun answer => ?_
      refine .pure fun parameters reading _ => .of_readsAll ?_
      have filtering : Clause.readsAll (Clause.filtering conditions) = true := by
        unfold Clause.filtering
        split <;> rfl
      simp [reading, filtering, Clause.readsAll, Clause.reads]
  | lookup id variants =>
      refine .bind (.bindValue _ "id") fun id => ?_
      refine .bind (emitVariants_reads features id variants) fun _ => ?_
      exact .pure fun parameters reading _ => .of_readsAll (by
        simp [reading, Clause.readsAll, Clause.reads])
  | create nodes response =>
      refine .bind (emitRoots_paired features 0 fitting) fun made => ?_
      refine .bind (emitAnswer_reads features response _) fun answer => ?_
      refine .pure fun parameters reading paired => ?_
      rw [List.append_assoc]
      refine paired.append (.of_readsAll ?_)
      simp [reading, Clause.readsAll, Clause.reads]
  | update label filter assignments entries connections response =>
      refine .bind (emitConditions_ensures rootName filter) fun conditions => ?_
      refine .bind (emitAssignments_ensures rootName assignments) fun assigned => ?_
      refine .bind (emitEntries_paired features rootName entries fun inner member =>
        fitting inner (List.mem_cons_of_mem _ member)) fun nested => ?_
      refine .bind (emitConnectionUpdates_paired features fits rootName connections) fun updates => ?_
      refine .bind (emitAnswer_reads features response _) fun answer => ?_
      refine .pure fun parameters reading updating entering set _ => ?_
      have names : Pattern.Names fits (.node { name := rootName, label := some label }) :=
        ⟨show rootName ≠ "" by decide, label, rfl, fitting label (List.mem_cons_self ..)⟩
      have read : Paired features parameters fits none
          (.carry [.kept rootName] :: (nested.1 ++ (updates.1 ++
            (.carry [.kept rootName, .as (concatenation (nested.2 ++ updates.2)) "matches"] ::
              answer)))) :=
        .reads rfl (entering.append (updating.append (.reads rfl (.of_readsAll reading))))
      have owned : AreOf rootName assigned := areOf_of_assigns set
      have whole : Paired features parameters fits none
          (.find (.node { name := rootName, label := some label }) ::
            (Clause.filtering conditions ++ Clause.setting assigned ++ _)) :=
        .found names owned read
      simpa only [List.append_assoc, List.cons_append, List.nil_append] using whole

end

section

variable {basis : Basis}

mutual

/-- The nodes that a planned node writes are of node types of the model. -/
theorem planNode_labels {node : NodeType} {input : Value} {path : String} {plan : NodePlan}
    (known : node ∈ basis.model.nodes) (planned : basis.planNode node path input = .ok plan)
    {label : String} (member : label ∈ plan.labels) :
    ∃ type ∈ basis.model.nodes, type.name = label := by
  obtain ⟨entries, nested, whole, -, -, entered, rfl⟩ := planNode_ok_iff.mp planned
  subst whole
  rcases List.mem_cons.mp member with rfl | inner
  · exact ⟨node, known, rfl⟩
  · obtain ⟨made, inside, among⟩ := EntryPlan.mem_labelsOf.mp inner
    obtain ⟨relationship, -, field, found, path, plans, done, placed⟩ :=
      planEntries_of_mem_plans entered inside
    exact planFieldInput_labels done placed among
  termination_by sizeOf input
  decreasing_by
    subst_vars
    exact sizeOf_get?_lt found

theorem planFieldInput_labels {relationship : Relationship} {input : Value} {path : String}
    {plans : List EntryPlan} (planned : basis.planFieldInput relationship path input = .ok plans)
    {plan : EntryPlan} (placed : plan ∈ plans) {label : String} (member : label ∈ plan.labels) :
    ∃ type ∈ basis.model.nodes, type.name = label := by
  obtain ⟨entries, items, whole, ⟨listed, path, item, inside, done⟩ |
    ⟨listed, path, item, inside, done⟩⟩ := planFieldInput_of_mem_plans planned placed
  · subst whole
    exact planCreate_labels done member
  · obtain ⟨_, _, _, _, -, -, -, -, -, rfl⟩ := (planConnect_ok_iff basis).mp done
    cases member
  termination_by sizeOf input
  decreasing_by
    subst_vars
    exact sizeOf_item_lt listed inside

theorem planCreate_labels {relationship : Relationship} {input : Value} {path : String}
    {plan : EntryPlan} (planned : basis.planCreate relationship path input = .ok plan)
    {label : String} (member : label ∈ plan.labels) :
    ∃ type ∈ basis.model.nodes, type.name = label := by
  obtain ⟨entries, target, properties, inner, made, whole, there, -, given, nested, rfl⟩ :=
    planCreate_ok_iff.mp planned
  subst whole
  exact planNode_labels (Model.node_mem there) nested member
  termination_by sizeOf input
  decreasing_by
    subst_vars
    exact sizeOf_get?_lt given

end

/-- The nodes that a plan writes are of node types of the model. -/
theorem plan_labels {field : RootField} {plan : Plan} (planned : basis.plan field = .ok plan)
    {label : String} (member : label ∈ plan.labels) :
    ∃ type ∈ basis.model.nodes, type.name = label := by
  have told := plan_told planned
  cases field with
  | create key typeName inputs response =>
      obtain ⟨node, nodes, answer, found, each, rfl⟩ := told
      obtain ⟨nodePlan, inside, among⟩ := List.mem_flatMap.mp member
      obtain ⟨⟨input, index⟩, -, done⟩ := Outcome.mapM_ok_of_mem_answers each inside
      exact planNode_labels (Model.node_mem found) done among
  | update key typeName response filter assignments connections =>
      obtain ⟨node, entries, given, nested, updates, condition, answer, found, -, -, entered, -, -,
        rfl⟩ := told
      rcases List.mem_cons.mp member with rfl | inner
      · exact ⟨node, Model.node_mem found, rfl⟩
      · obtain ⟨made, inside, among⟩ := EntryPlan.mem_labelsOf.mp inner
        obtain ⟨relationship, -, input, -, path, plans, done, placed⟩ :=
          planEntries_of_mem_plans entered inside
        exact planFieldInput_labels done placed among
  | list key typeName selection filter =>
      obtain ⟨_, _, _, -, rfl⟩ := told
      cases member
  | lookup key id variants =>
      obtain ⟨_, rfl⟩ := told
      cases member
  | typename key typeName => cases told

end

/-!
Lists of nodes to create.  The entries of a `create` list of a request, at whatever depth it stands,
are planned in their order, and the clauses of these plans follow one another in the same order in one
list of clauses.
-/

open Cypher.Clause (Within NumbersOne DrawsInPairs)

mutual

/-- The `create` lists in the input for a new node. -/
inductive NodeLists (model : Model) : NodeType → Value → Relationship → List Value → Prop where
  | field {node : NodeType} {entries : Entries Value} {relationship edge : Relationship}
      {input : Value} {items : List Value} (member : relationship ∈ node.relationships)
      (found : entries.get? relationship.name = some input)
      (inside : FieldLists model relationship input edge items) :
      NodeLists model node (.object entries) edge items

/-- The `create` lists in the input for a relationship of a node. -/
inductive FieldLists (model : Model) : Relationship → Value → Relationship → List Value → Prop where
  | here {relationship : Relationship} {entries : Entries Value} {items : List Value}
      (found : entries.get? createKey = some (.list items)) :
      FieldLists model relationship (.object entries) relationship items
  | deeper {relationship edge : Relationship} {entries item : Entries Value}
      {items others : List Value} {related : NodeType} {input : Value}
      (found : entries.get? createKey = some (.list items)) (member : Value.object item ∈ items)
      (resolved : model.related relationship = .ok related) (given : item.get? "node" = some input)
      (inside : NodeLists model related input edge others) :
      FieldLists model relationship (.object entries) edge others

end

/-- A `create` list of a root field, with the relationship that its entries are about. -/
inductive Lists (model : Model) : RootField → Relationship → List Value → Prop where
  | create {key typeName : String} {inputs items : List Value} {response : ResponseSelection}
      {node : NodeType} {input : Value} {edge : Relationship}
      (resolved : model.node typeName = .ok node) (member : input ∈ inputs)
      (inside : NodeLists model node input edge items) :
      Lists model (.create key typeName inputs response) edge items
  | update {key typeName : String} {response : ResponseSelection}
      {filter assignments connections : Value} {node : NodeType} {entries : Entries Value}
      {relationship edge : Relationship} {input : Value} {items : List Value}
      (resolved : model.node typeName = .ok node) (read : entriesOf? assignments = some entries)
      (member : relationship ∈ node.relationships)
      (found : entries.get? relationship.name = some input)
      (inside : FieldLists model relationship input edge items) :
      Lists model (.update key typeName response filter assignments connections) edge items

/-- Entries that are the entries of a node that is created with others, or these others. -/
inductive EntryPlan.Nested : List EntryPlan → List EntryPlan → Prop where
  | self (entries : List EntryPlan) : Nested entries entries
  | create {step : Step} {properties given : List Assignment} {label identifier : String}
      {id : Option Value} {inner deep entries : List EntryPlan}
      (member : .create step properties (.mk label identifier id given inner) ∈ entries)
      (nested : Nested deep inner) : Nested deep entries

section

variable {basis : Basis}

/-- Items that are planned one after another among some entries. -/
def Plans (basis : Basis) (relationship : Relationship) (items : List Value)
    (entries : List EntryPlan) : Prop :=
  ∃ front made back, entries = front ++ made ++ back ∧
    List.Forall₂ (fun item entry => ∃ path, basis.planCreate relationship path item = .ok entry)
      items made

theorem planEach_forall₂ {α : Type} {path key : String} {plan : String → Value → Except Failure α}
    {items : List Value} {plans : List α} (planned : Basis.planEach path key plan items = .ok plans) :
    List.Forall₂ (fun item made => ∃ path, plan path item = .ok made) items plans := by
  have each := Outcome.mapM_ok_iff.mp planned
  have dropped : items.zipIdx.map Prod.fst = items := List.zipIdx_map_fst ..
  rw [← dropped, List.forall₂_map_left_iff]
  exact each.imp fun _ _ done => ⟨_, done⟩

/-- What one relationship gets stands together among the entries of a node. -/
theorem planEntries_segment {node : NodeType} {path : String} {entries : Entries Value}
    {nested : List EntryPlan} (planned : basis.planEntries node path entries = .ok nested)
    {relationship : Relationship} (member : relationship ∈ node.relationships) {input : Value}
    (found : entries.get? relationship.name = some input) :
    ∃ path made front back, basis.planFieldInput relationship path input = .ok made ∧
      nested = front ++ made ++ back := by
  rw [planEntries_eq] at planned
  obtain ⟨lists, each, rfl⟩ := Outcome.map_ok_iff.mp planned
  obtain ⟨made, among, done⟩ := Outcome.mapM_ok_of_mem each member
  unfold Basis.planRelationship at done
  rw [found] at done
  obtain ⟨before, after, rfl⟩ := List.append_of_mem among
  exact ⟨_, made, before.flatten, after.flatten, done, by simp⟩

mutual

/-- A list in the input for a planned node is planned in its order. -/
theorem NodeLists.planned {node : NodeType} {input : Value} {edge : Relationship}
    {items : List Value} {path label identifier : String} {id : Option Value}
    {given : List Assignment} {entries : List EntryPlan}
    (lists : NodeLists basis.model node input edge items)
    (planned : basis.planNode node path input = .ok (.mk label identifier id given entries)) :
    ∃ inner, EntryPlan.Nested inner entries ∧ Plans basis edge items inner := by
  cases lists with
  | field member found inside =>
      obtain ⟨_, nested, same, -, -, entered, made⟩ := planNode_ok_iff.mp planned
      cases same
      cases made
      obtain ⟨path, made, front, back, done, whole⟩ := planEntries_segment entered member found
      exact inside.planned done whole
  termination_by sizeOf input
  decreasing_by
    subst_vars
    exact sizeOf_get?_lt found

theorem FieldLists.planned {relationship : Relationship} {input : Value} {edge : Relationship}
    {items : List Value} {path : String} {made front back entries : List EntryPlan}
    (lists : FieldLists basis.model relationship input edge items)
    (planned : basis.planFieldInput relationship path input = .ok made)
    (whole : entries = front ++ made ++ back) :
    ∃ inner, EntryPlan.Nested inner entries ∧ Plans basis edge items inner := by
  cases lists with
  | here found =>
      rw [planFieldInput_object] at planned
      obtain ⟨-, -, planned⟩ := Outcome.bind_ok_iff.mp planned
      obtain ⟨created, creations, planned⟩ := Outcome.bind_ok_iff.mp planned
      obtain ⟨connected, -, joined⟩ := Outcome.bind_ok_iff.mp planned
      cases joined
      rw [creations_of_list found] at creations
      refine ⟨entries, .self _, front, created, connected ++ back, ?_, planEach_forall₂ creations⟩
      rw [whole]
      simp only [List.append_assoc]
  | deeper found member resolved given inside =>
      rw [planFieldInput_object] at planned
      obtain ⟨-, -, planned⟩ := Outcome.bind_ok_iff.mp planned
      obtain ⟨created, creations, planned⟩ := Outcome.bind_ok_iff.mp planned
      obtain ⟨connected, -, joined⟩ := Outcome.bind_ok_iff.mp planned
      cases joined
      rw [creations_of_list found] at creations
      obtain ⟨path, plan, among, done⟩ := planEach_of_mem creations member
      obtain ⟨_, related, properties, inner, node, same, there, -, here, nested, rfl⟩ :=
        planCreate_ok_iff.mp done
      cases same
      rw [resolved] at there
      rw [given] at here
      cases there
      cases here
      obtain ⟨_, _, -, -, -, -, rfl⟩ := planNode_ok_iff.mp nested
      obtain ⟨deep, below, plans⟩ := inside.planned nested
      have placed : _ ∈ entries :=
        whole ▸ List.mem_append_left _ (List.mem_append_right _ (List.mem_append_left _ among))
      exact ⟨deep, .create placed below, plans⟩
  termination_by sizeOf input
  decreasing_by
    subst_vars
    have outer := sizeOf_get?_lt found
    have between := List.sizeOf_lt_of_mem member
    have inner := sizeOf_get?_lt given
    simp only [Value.list.sizeOf_spec] at outer
    omega

end

end

section

variable (features : Features)

/-- A clause that an entry of a node may have. -/
def ClauseOf (features : Features) (source : String) (entry : EntryPlan) (clause : Clause) : Prop :=
  ∃ supply, (emitEntry features source entry supply).1.1 = clause

theorem emitEntries_each (source : String) (entries : List EntryPlan) (supply : Supply) :
    List.Forall₂ (ClauseOf features source) entries
      (emitEntries features source entries supply).1.1 := by
  induction entries generalizing supply with
  | nil => exact .nil
  | cons entry rest ih => exact .cons ⟨supply, rfl⟩ (ih _)

/-- The clause of an entry is a subquery in which its relationship is created. -/
theorem ClauseOf.relates {source : String} {entry : EntryPlan} {clause : Clause}
    (emitted : ClauseOf features source entry clause) :
    ∃ body pattern, clause = .subquery [source] body ∧
      .create (.relationship pattern) ∈ body ∧ pattern.label = entry.step.label := by
  obtain ⟨supply, rfl⟩ := emitted
  cases entry with
  | create step properties node =>
      exact ⟨_, _, rfl, List.mem_append_left _ (List.mem_append_right _
        (List.mem_cons_of_mem _ (List.mem_cons_self ..))), rfl⟩
  | connect step path filter properties =>
      exact ⟨_, _, rfl, List.mem_cons_of_mem _ (List.mem_append_left _ (List.mem_append_right _
        (List.mem_cons_of_mem _ (List.mem_cons_self ..)))), rfl⟩

theorem emitNode_entries (name : String) (kept : List String) (label identifier : String)
    (id : Option Value) (given : List Assignment) (entries : List EntryPlan) (supply : Supply) :
    ∃ later front, (emitNode features name kept (.mk label identifier id given entries) supply).1.1 =
      front ++ (emitEntries features name entries later).1.1 :=
  ⟨_, [_, _, _], rfl⟩

/-- In the clause of an entry stand the clauses of what is nested in it. -/
theorem ClauseOf.nested {source : String} {step : Step} {properties given : List Assignment}
    {label identifier : String} {id : Option Value} {inner : List EntryPlan} {clause : Clause}
    (emitted : ClauseOf features source
      (.create step properties (.mk label identifier id given inner)) clause) :
    ∃ target supply front back, clause =
      .subquery [source] (front ++ (emitEntries features target inner supply).1.1 ++ back) := by
  obtain ⟨supply, rfl⟩ := emitted
  obtain ⟨target, later, relationship, answer, whole⟩ : ∃ target later relationship answer,
      (emitEntry features source (.create step properties (.mk label identifier id given inner))
        supply).1.1 = .subquery [source]
          ((emitNode features target [source] (.mk label identifier id given inner) later).1.1 ++
            relationship ++ answer) := ⟨_, _, _, _, rfl⟩
  obtain ⟨last, front, node⟩ :=
    emitNode_entries features target [source] label identifier id given inner later
  refine ⟨target, last, front, relationship ++ answer, ?_⟩
  rw [whole, node, List.append_assoc]

/-- The clauses of entries that are nested in others stand together somewhere in the clauses of
these. -/
theorem EntryPlan.Nested.emitted {inner entries : List EntryPlan}
    (nested : EntryPlan.Nested inner entries) {source : String} {supply : Supply}
    (front back : List Clause) :
    ∃ target supply' before after,
      Within (before ++ (emitEntries features target inner supply').1.1 ++ after)
        (front ++ (emitEntries features source entries supply).1.1 ++ back) := by
  induction nested generalizing source supply front back with
  | self entries => exact ⟨source, supply, front, back, .self _⟩
  | create member _ ih =>
      obtain ⟨clause, among, emitted⟩ :=
        Outcome.partner_of_mem (emitEntries_each features source _ supply) member
      obtain ⟨target, later, before, after, rfl⟩ := emitted.nested
      obtain ⟨target, last, first, final, within⟩ := ih before after
      exact ⟨target, last, first, final,
        .subquery (List.mem_append_left _ (List.mem_append_right _ among)) within⟩

theorem emitRoots_of_mem {nodes : List NodePlan} {label identifier : String} {id : Option Value}
    {given : List Assignment} {entries : List EntryPlan}
    (member : .mk label identifier id given entries ∈ nodes) (index : Nat) (supply : Supply) :
    ∃ name later front back,
      .subquery [] (front ++ (emitEntries features name entries later).1.1 ++ back) ∈
        (emitRoots features index nodes supply).1.1 := by
  induction nodes generalizing index supply with
  | nil => cases member
  | cons node rest ih =>
      rcases List.mem_cons.mp member with rfl | later
      · exact ⟨_, _, [_, _, _], [_], List.mem_cons_self ..⟩
      · obtain ⟨name, left, front, back, among⟩ := ih later (index + 1) _
        exact ⟨name, left, front, back, List.mem_cons_of_mem _ among⟩

theorem emit_update_entries (label : String) (filter assignments : List Assignment)
    (entries : List EntryPlan) (connections : List ConnectionUpdate) (response : ResponsePlan)
    (supply : Supply) :
    ∃ later front back,
      ((Plan.update label filter assignments entries connections response).emit features supply).1 =
        front ++ (emitEntries features rootName entries later).1.1 ++ back := by
  obtain ⟨later, front, updates, carried, answer, whole⟩ : ∃ later front updates carried answer,
      ((Plan.update label filter assignments entries connections response).emit features supply).1 =
        front ++ (emitEntries features rootName entries later).1.1 ++ updates ++ carried ++ answer :=
    ⟨_, .find _ :: (_ ++ _ ++ [_]), _, [_], _, rfl⟩
  exact ⟨later, front, updates ++ carried ++ answer, by rw [whole]; simp only [List.append_assoc]⟩

variable {basis : Basis} {field : RootField} {plan : Plan} {edge : Relationship}
  {items : List Value}

/-- The clauses of the entries of a `create` list stand together, in the order of the list. -/
theorem Lists.emitted (lists : Lists basis.model field edge items)
    (planned : basis.plan field = .ok plan) (supply : Supply) :
    ∃ source front made back, Within (front ++ made ++ back) (plan.emit features supply).1 ∧
      List.Forall₂ (fun item clause => ∃ path entry,
        basis.planCreate edge path item = .ok entry ∧ ClauseOf features source entry clause)
        items made := by
  -- Some entries of the plan hold those of the list, and their clauses are among those of the plan.
  obtain ⟨inner, plans, source, later, before, after, within⟩ : ∃ inner,
      Plans basis edge items inner ∧ ∃ source later before after,
        Within (before ++ (emitEntries features source inner later).1.1 ++ after)
          (plan.emit features supply).1 := by
    cases lists with
    | create resolved member inside =>
        obtain ⟨node, nodes, answer, found, each, rfl⟩ := plan_told planned
        rw [resolved] at found
        cases found
        obtain ⟨index, bound, same⟩ := List.getElem_of_mem member
        have among : (_, index) ∈ _ := List.mk_mem_zipIdx_iff_getElem?.mpr
          (same ▸ List.getElem?_eq_getElem bound)
        obtain ⟨⟨label, identifier, id, given, entries⟩, made, done⟩ :=
          Outcome.mapM_ok_of_mem each among
        obtain ⟨inner, nested, plans⟩ := inside.planned done
        obtain ⟨name, begun, front, back, here⟩ := emitRoots_of_mem features made 0 supply
        obtain ⟨source, later, before, after, within⟩ := nested.emitted features front back
        exact ⟨inner, plans, source, later, before, after,
          .subquery (List.mem_append_left _ (List.mem_append_left _ here)) within⟩
    | @update _ _ _ _ _ _ node entries _ _ _ _ resolved read member given inside =>
        obtain ⟨_, _, _, nested, updates, condition, answer, found, here, -, entered, -, -,
          rfl⟩ := plan_told planned
        rw [resolved] at found
        rw [read] at here
        cases found
        cases here
        obtain ⟨path, made, front, back, done, whole⟩ := planEntries_segment entered member given
        obtain ⟨inner, below, plans⟩ := inside.planned done whole
        obtain ⟨later, first, last, emitted⟩ := emit_update_entries features node.name condition
          (propertiesIn node entries) nested updates answer supply
        obtain ⟨source, begun, before, after, within⟩ := below.emitted features first last
        exact ⟨inner, plans, source, begun, before, after, emitted ▸ within⟩
  obtain ⟨front, made, back, rfl, each⟩ := plans
  have emitted := emitEntries_each features source (front ++ made ++ back) later
  obtain ⟨some_, last, whole, others, -⟩ := Outcome.related_append emitted
  obtain ⟨first, among, rfl, -, inside⟩ := Outcome.related_append others
  refine ⟨source, before ++ first, among, last ++ after, ?_, ?_⟩
  · rw [whole] at within
    simpa only [List.append_assoc] using within
  · refine (Outcome.related_through each inside).imp ?_
    rintro item clause ⟨entry, ⟨path, done⟩, emitted⟩
    exact ⟨path, entry, done, emitted⟩

end

end GraphGateway.Statement
