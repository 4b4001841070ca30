import GraphGateway.Proofs.Cypher.Run
import GraphGateway.Proofs.Cypher.Sequenced
import GraphGateway.Proofs.Statement.Drawn
import GraphGateway.Proofs.Statement.Named

/-!
Updates of relationships.  A mutation that creates and connects nothing sets properties of the node
that it is about, and each entry of an update of connections sets properties of relationships that
its own subquery finds.  What is set is what the input gives, and the rest of the statement reads.
-/
namespace GraphGateway.Cypher.Clause

theorem assigned_of_reads {clause : Clause} (reading : clause.reads = true) :
    clause.assigned = [] := by
  cases clause with
  | set assignments => cases reading
  | setOnCreate target value => cases reading
  | _ => rfl

theorem readsAll_iff {clauses : List Clause} :
    readsAll clauses = true ↔ ∀ clause ∈ clauses, clause.reads = true := by
  induction clauses with
  | nil => simp [readsAll]
  | cons clause rest ih => simp [readsAll, ih]

/-- Clauses that read have only clauses in them that read. -/
theorem readsAll_of_within {body clauses : List Clause} (reading : readsAll clauses = true)
    (within : Within body clauses) : readsAll body = true := by
  induction within with
  | self _ => exact reading
  | subquery member _ ih => exact ih (readsAll_iff.mp reading _ member)

end GraphGateway.Cypher.Clause

namespace GraphGateway.Statement

open Cypher Request Schema
open Naming (Ensures Holds)

/-- An assignment of a property that is given, to an owner. -/
def Sets (parameters : Entries Value) (owner : String) (property : String × Value)
    (assignment : Expression × Expression) : Prop :=
  assignment.1 = .property owner property.1 ∧ Holds property.2 assignment.2 parameters

/-- The fields of a node type that an input gives. -/
def fieldsGiven (node : NodeType) (entries : Entries Value) : Entries Value :=
  node.fields.filterMap fun field => (entries.get? field.name).map (field.name, ·)

/-- The entries of an update of connections, each under the name of its relationship. -/
def connectionEntries (given : Entries Value) : List (String × Value) :=
  given.flatMap fun (name, value) => (itemsIn value).map (name, ·)

/-- The body of the subquery for an entry.  It finds, under a name of its own, the relationships of
the field between the node of the statement and the related type, and sets on them what the entry
gives; what follows only reads. -/
inductive UpdatesEdge (node : NodeType) (parameters : Entries Value) (name : String)
    (entries : Entries Value) (edge : String) : List Clause → Prop where
  | mk (conditions : List Expression) {relationship : Relationship} {target : String}
      {assigned : List (Expression × Expression)} {reported : List Clause}
      (known : node.relationship? name = some relationship)
      (fresh : edge ∉ ["", rootName, target])
      (each : List.Forall₂ (Sets parameters edge) (propertiesGiven entries) assigned)
      (reading : Clause.readsAll reported = true) :
      UpdatesEdge node parameters name entries edge
        (.find (.relationship
            { source := rootName, direction := relationship.direction, name := edge,
              label := relationship.label,
              target := { name := target, label := some relationship.relatedType } }) ::
          (Clause.filtering conditions ++ Clause.setting assigned ++ reported))

/-- The subquery for an entry sees the node of the statement and nothing else. -/
def UpdatesIn (node : NodeType) (parameters : Entries Value) (entry : String × Value)
    (clause : Clause) : Prop :=
  ∃ entries edge body, entry.2 = .object entries ∧ clause = .subquery [rootName] body ∧
    UpdatesEdge node parameters entry.1 entries edge body

/-- The clauses of a mutation that sets properties of a node and of relationships, and nothing
else. -/
inductive OnlyUpdates (node : NodeType) (parameters entries given : Entries Value) :
    List Clause → Prop where
  | mk (conditions : List Expression) {assigned : List (Expression × Expression)}
      {updates answer : List Clause}
      (own : List.Forall₂ (Sets parameters rootName) (fieldsGiven node entries) assigned)
      (each : List.Forall₂ (UpdatesIn node parameters) (connectionEntries given) updates)
      (reading : Clause.readsAll answer = true) :
      OnlyUpdates node parameters entries given
        (.find (.node { name := rootName, label := some node.name }) ::
          (Clause.filtering conditions ++ Clause.setting assigned ++
            .carry [.kept rootName] :: (updates ++ answer)))

/-- What an assignment in some clauses of the whole sets: something that is given for the node of the
statement, or something that an entry gives for the relationships that these clauses find. -/
def AssignsGiven (node : NodeType) (parameters entries given : Entries Value)
    (clauses body : List Clause) (assignment : Expression × Expression) : Prop :=
  body = clauses ∧
    (∃ property ∈ fieldsGiven node entries, Sets parameters rootName property assignment) ∨
  ∃ name properties edge, (name, Value.object properties) ∈ connectionEntries given ∧
    UpdatesEdge node parameters name properties edge body ∧
    ∃ property ∈ propertiesGiven properties, Sets parameters edge property assignment

section

variable {node : NodeType} {parameters entries given : Entries Value} {clauses body : List Clause}
  {clause : Clause} {assignment : Expression × Expression}

/-- A clause that reads has no assignment, nor do the clauses in it. -/
theorem not_assigned_of_reads (reading : Clause.readsAll clauses = true)
    (within : Clause.Within body clauses) (member : clause ∈ body) :
    assignment ∉ clause.assigned := by
  have reads := Clause.readsAll_iff.mp (Clause.readsAll_of_within reading within) clause member
  rw [Clause.assigned_of_reads reads]
  exact List.not_mem_nil

section

variable {pattern : Pattern} {conditions : List Expression}
  {assigned : List (Expression × Expression)} {rest : List Clause}

/-- Of the clauses that find, filter and set, only the last assigns. -/
theorem mem_of_assigns
    (member : clause ∈ .find pattern ::
      (Clause.filtering conditions ++ Clause.setting assigned ++ rest))
    (assigns : assignment ∈ clause.assigned) : assignment ∈ assigned ∨ clause ∈ rest := by
  rcases List.mem_cons.mp member with rfl | member
  · cases assigns
  · rcases List.mem_append.mp member with front | behind
    · unfold Clause.filtering Clause.setting at front
      rcases List.mem_append.mp front with filter | set
      · split at filter
        · cases filter
        · rw [List.mem_singleton.mp filter] at assigns
          cases assigns
      · split at set
        · cases set
        · rw [List.mem_singleton.mp set] at assigns
          exact .inl assigns
    · exact .inr behind

theorem mem_of_subquery {imports : List String} {inner : List Clause}
    (member : .subquery imports inner ∈ .find pattern ::
      (Clause.filtering conditions ++ Clause.setting assigned ++ rest)) :
    .subquery imports inner ∈ rest := by
  unfold Clause.filtering Clause.setting at member
  simp only [List.mem_cons, List.mem_append, reduceCtorEq, false_or] at member
  rcases member with (filter | set) | behind
  · split at filter <;> simp at filter
  · split at set <;> simp at set
  · exact behind

end

/-- All that is assigned in the subquery for an entry is assigned in its own clauses, and is given
by the entry. -/
theorem UpdatesEdge.assigns {name edge : String}
    (updates : UpdatesEdge node parameters name entries edge clauses)
    (within : Clause.Within body clauses) (member : clause ∈ body)
    (assigns : assignment ∈ clause.assigned) :
    body = clauses ∧
      ∃ property ∈ propertiesGiven entries, Sets parameters edge property assignment := by
  cases updates with
  | mk conditions known fresh each reading =>
    cases within with
    | self _ =>
        refine ⟨rfl, ?_⟩
        rcases mem_of_assigns member assigns with set | behind
        · exact Outcome.partner_of_mem_others each set
        · exact absurd assigns (not_assigned_of_reads reading (.self _) behind)
    | subquery inside within =>
        have deeper := Clause.Within.subquery (mem_of_subquery inside) within
        exact absurd assigns (not_assigned_of_reads reading deeper member)

/-- A mutation that only updates assigns only what it is given. -/
theorem OnlyUpdates.assigns (only : OnlyUpdates node parameters entries given clauses)
    (within : Clause.Within body clauses) (member : clause ∈ body)
    (assigns : assignment ∈ clause.assigned) :
    AssignsGiven node parameters entries given clauses body assignment := by
  cases only with
  | mk conditions own each reading =>
    cases within with
    | self _ =>
        refine .inl ⟨rfl, ?_⟩
        rcases mem_of_assigns member assigns with set | behind
        · exact Outcome.partner_of_mem_others own set
        · rcases List.mem_cons.mp behind with rfl | behind
          · cases assigns
          · rcases List.mem_append.mp behind with nested | behind
            · obtain ⟨entry, -, properties, edge, body, -, rfl, -⟩ :=
                Outcome.partner_of_mem_others each nested
              cases assigns
            · exact absurd assigns (not_assigned_of_reads reading (.self _) behind)
    | subquery inside within =>
        rcases List.mem_cons.mp (mem_of_subquery inside) with impossible | behind
        · cases impossible
        · rcases List.mem_append.mp behind with nested | behind
          · obtain ⟨⟨name, value⟩, among, properties, edge, inner, rfl, same, updates⟩ :=
              Outcome.partner_of_mem_others each nested
            cases same
            obtain ⟨rfl, set⟩ := updates.assigns within member assigns
            exact .inr ⟨name, properties, edge, among, updates, set⟩
          · exact absurd assigns (not_assigned_of_reads reading (.subquery behind within) member)

end

/-- A value for a property that is stored under its own name. -/
def Assignment.ofEntry (property : String × Value) : Assignment where
  field := property.1
  stored := property.1
  value := property.2

theorem propertiesIn_eq {node : NodeType} (stored : ∀ field ∈ node.fields, field.stored = field.name)
    (entries : Entries Value) :
    propertiesIn node entries = (fieldsGiven node entries).map .ofEntry := by
  unfold propertiesIn fieldsGiven
  rw [List.map_filterMap]
  refine List.filterMap_congr fun field member => ?_
  cases entries.get? field.name with
  | none => rfl
  | some value => simp [Assignment.ofEntry, stored field member]

theorem sets_of_assigns {parameters properties : Entries Value} {owner : String}
    {assigned : List (Expression × Expression)}
    (each : List.Forall₂ (Assigns parameters owner) (properties.map .ofEntry) assigned) :
    List.Forall₂ (Sets parameters owner) properties assigned :=
  (List.forall₂_map_left_iff (R := Assigns parameters owner)).mp each

section

variable {basis : Basis}

/-- Properties of a relationship that are planned are stored under the names that they are given
under. -/
theorem planProperties_eq
    (stored : ∀ type ∈ basis.model.properties, ∀ field ∈ type.fields, field.stored = field.name)
    {relationship : Relationship} {path : String} {creating : Bool} {value : Value}
    {accepted : List Assignment}
    (planned : basis.planProperties relationship value path creating = .ok accepted) :
    accepted = ((entriesOf? value).getD []).map .ofEntry := by
  rw [planProperties_ok_iff] at planned
  split at planned
  · obtain ⟨empty, rfl⟩ := planned
    cases value <;> cases empty
    rfl
  · next type offered =>
    obtain ⟨entries, read, assigned⟩ := planned
    obtain ⟨known, -, -, rfl⟩ := relationshipAssignments_ok_iff.mp assigned
    have inside : type ∈ basis.model.properties := by
      unfold Model.offeredProperties? at offered
      split at offered
      · exact Model.properties_mem offered
      · cases offered
    rw [read, Option.getD_some, ← List.filterMap_eq_map]
    refine List.filterMap_congr fun (name, value) member => ?_
    have offers := List.find?_eq_none.mp known name (List.mem_map_of_mem (f := Prod.fst) member)
    obtain ⟨field, found⟩ : ∃ field, type.field? name = some field :=
      Option.ne_none_iff_exists'.mp (by simpa using offers)
    have same : field.stored = name :=
      (stored type inside field (List.mem_of_find?_eq_some found)).trans (name_of_find? found)
    simp [found, same, Assignment.ofEntry]

/-- An entry of an update of connections, and the update that it is planned as. -/
def PlannedFrom (basis : Basis) (node : NodeType) (entry : String × Value)
    (update : ConnectionUpdate) : Prop :=
  ∃ relationship path, node.relationship? entry.1 = some relationship ∧
    basis.planConnectionUpdate relationship path entry.2 = .ok update

/-- Only the items of a list are planned as updates. -/
theorem itemsIn_of_planned {relationship : Relationship} {path key : String} {value : Value}
    {items : List Value} {updates : List ConnectionUpdate} (read : itemsOf value = .ok items)
    (planned : Basis.planEach path key (basis.planConnectionUpdate relationship) items =
      .ok updates) : itemsIn value = items := by
  cases items with
  | nil =>
      cases value with
      | list others =>
          rw [itemsOf_list] at read
          cases read
          rfl
      | _ => rfl
  | cons item rest =>
      cases planEach_forall₂ planned with
      | cons first _ =>
          obtain ⟨path, done⟩ := first
          obtain ⟨entries, _, _, _, rfl, -⟩ := (planConnectionUpdate_ok_iff basis).mp done
          rw [eq_list_of_itemsOf read (List.mem_cons_self ..)]
          rfl

theorem planConnectionUpdates_forall₂ {node : NodeType} {path : String} {given : Entries Value}
    {updates : List ConnectionUpdate}
    (planned : basis.planConnectionUpdates node path given = .ok updates) :
    List.Forall₂ (PlannedFrom basis node) (connectionEntries given) updates := by
  induction given generalizing updates with
  | nil =>
      cases planned
      exact .nil
  | cons entry rest ih =>
      obtain ⟨name, value⟩ := entry
      obtain ⟨relationship, allowed, planned⟩ := Outcome.bind_ok_iff.mp planned
      obtain ⟨items, read, planned⟩ := Outcome.bind_ok_iff.mp planned
      obtain ⟨first, here, planned⟩ := Outcome.bind_ok_iff.mp planned
      obtain ⟨others, later, made⟩ := Outcome.bind_ok_iff.mp planned
      cases made
      unfold connectionEntries
      rw [List.flatMap_cons]
      refine List.rel_append ?_ (ih later)
      dsimp only
      rw [itemsIn_of_planned read here, List.forall₂_map_left_iff]
      exact (planEach_forall₂ here).imp fun item update ⟨path, done⟩ =>
        ⟨relationship, path, updatableRelationship_ok allowed, done⟩

/-- An input that asks for no creation is planned without any. -/
theorem planFieldInput_eq_nil {relationship : Relationship} {path : String} {input : Value}
    {plans : List EntryPlan} (planned : basis.planFieldInput relationship path input = .ok plans)
    (bare : ∀ write, FieldAsks basis.model relationship input write → write.creates = false) :
    plans = [] := by
  refine List.eq_nil_iff_forall_not_mem.mpr fun plan member => ?_
  obtain ⟨entries, items, rfl, ⟨listed, path, item, inside, done⟩ |
    ⟨listed, path, item, inside, done⟩⟩ := planFieldInput_of_mem_plans planned member
  · obtain ⟨_, _, _, _, _, rfl, -⟩ := planCreate_ok_iff.mp done
    cases bare _ (.created listed inside .edge)
  · obtain ⟨_, _, _, _, rfl, -⟩ := (planConnect_ok_iff basis).mp done
    cases bare _ (.connected listed inside)

theorem planEntries_eq_nil {node : NodeType} {path : String} {entries : Entries Value}
    {nested : List EntryPlan} (planned : basis.planEntries node path entries = .ok nested)
    (bare : ∀ relationship ∈ node.relationships, ∀ input,
      entries.get? relationship.name = some input →
      ∀ write, FieldAsks basis.model relationship input write → write.creates = false) :
    nested = [] := by
  refine List.eq_nil_iff_forall_not_mem.mpr fun plan member => ?_
  obtain ⟨relationship, known, input, found, path, made, done, among⟩ :=
    planEntries_of_mem_plans planned member
  rw [planFieldInput_eq_nil done (bare relationship known input found)] at among
  cases among

/-- The node type that a relationship leads to has the name of its related type. -/
theorem related_name {relationship : Relationship} {related : NodeType}
    (leads : basis.model.related relationship = .ok related) :
    related.name = relationship.relatedType := by
  unfold Model.related Model.node at leads
  split at leads
  · next node found =>
    cases leads
    exact name_of_find? found
  · cases leads

theorem numbered_ne_rootName (base : String) (number : Nat) : numbered base number ≠ rootName := by
  intro same
  have inside : '_' ∈ rootName.toList := by
    rw [← same, numbered_toList]
    exact List.mem_append_right _ (List.mem_cons_self ..)
  exact absurd inside (by decide)

variable (stored : ∀ type ∈ basis.model.properties, ∀ field ∈ type.fields, field.stored = field.name)
  {node : NodeType}

include stored

/-- The subquery of a planned entry sets what the entry gives on relationships that it finds. -/
theorem emitConnectionUpdate_updates {entry : String × Value} {update : ConnectionUpdate}
    (planned : PlannedFrom basis node entry update) :
    Ensures (emitConnectionUpdate rootName update) fun answer parameters =>
      UpdatesIn node parameters entry answer.1 := by
  obtain ⟨relationship, path, known, done⟩ := planned
  obtain ⟨entries, related, properties, filter, whole, leads, -, assigned, -, rfl⟩ :=
    (planConnectionUpdate_ok_iff basis).mp done
  have accepted := planProperties_eq stored assigned
  rw [entriesOf?_orEmpty_get?] at accepted
  refine .bind (.newName "edge") fun edge => ?_
  refine .bind (.newName "node") fun target => ?_
  refine .bind (.newName "count") fun count => ?_
  refine .bind (.newName "matches") fun report => ?_
  refine .bind (emitConditions_ensures target filter) fun conditions => ?_
  refine .bind (emitAssignments_ensures edge properties) fun assigned => ?_
  refine .bind (emitReport_reads path edge count report) fun reported => ?_
  refine .pure fun parameters reading set _ _ _ ⟨other, found⟩ ⟨number, bound⟩ => ?_
  have fresh : edge ∉ ["", rootName, target] := by
    rw [found, bound]
    refine List.not_mem_cons_of_ne_of_not_mem (numbered_ne_empty _ _) ?_
    refine List.not_mem_cons_of_ne_of_not_mem (numbered_ne_rootName _ _) ?_
    intro member
    exact absurd (base_eq_of_numbered_eq (List.mem_singleton.mp member)) (by decide)
  rw [accepted] at set
  refine ⟨entries, edge, _, whole, rfl, ?_⟩
  have updates := UpdatesEdge.mk conditions known fresh (sets_of_assigns set) reading
  rw [← related_name leads] at updates
  exact updates

theorem emitConnectionUpdates_updates {entries : List (String × Value)}
    {updates : List ConnectionUpdate}
    (planned : List.Forall₂ (PlannedFrom basis node) entries updates) :
    Ensures (emitConnectionUpdates rootName updates) fun answer parameters =>
      List.Forall₂ (UpdatesIn node parameters) entries answer.1 := by
  induction planned with
  | nil => exact .pure fun _ => .nil
  | cons first _ ih =>
      refine .bind (emitConnectionUpdate_updates stored first) fun _ => .bind ih fun _ => ?_
      exact .pure fun _ others here => .cons here others

/-- The statement of a mutation that creates and connects nothing only updates. -/
theorem emit_onlyUpdates (features : Settings.Features)
    (own : ∀ field ∈ node.fields, field.stored = field.name) {entries given : Entries Value}
    {filter : List Assignment} {updates : List ConnectionUpdate} {response : ResponsePlan}
    (planned : List.Forall₂ (PlannedFrom basis node) (connectionEntries given) updates) :
    Ensures ((Plan.update node.name filter (propertiesIn node entries) [] updates response).emit
        features)
      fun clauses parameters => OnlyUpdates node parameters entries given clauses := by
  rw [propertiesIn_eq own]
  refine .bind (emitConditions_ensures rootName filter) fun conditions => ?_
  refine .bind (emitAssignments_ensures rootName _) fun assigned => ?_
  have none_ : Ensures (emitEntries features rootName []) fun answer _ => answer = ([], []) :=
    .pure fun _ => rfl
  refine .bind_of none_ ?_
  rintro _ rfl
  refine .bind (emitConnectionUpdates_updates stored planned) fun nested => ?_
  refine .bind (emitAnswer_reads features response _) fun answer => ?_
  refine .pure fun parameters reading each set _ => ?_
  have answers : Clause.readsAll
      (.carry [.kept rootName, .as (concatenation ([] ++ nested.2)) "matches"] :: answer) = true :=
    reading
  have updates := OnlyUpdates.mk conditions (sets_of_assigns set) each answers
  simp only [List.append_assoc, List.cons_append, List.nil_append] at updates ⊢
  exact updates

end

end GraphGateway.Statement
