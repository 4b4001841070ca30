import GraphGateway.Proofs.Statement.Answered
import GraphGateway.Proofs.Statement.Projected

/-!
Rows of statements.  Whatever rows a statement may answer, they are such as its root field is answered
from: each row has its columns, and the map in it has the slots of what is selected.  Only where a
looked-up node has a field under the key of its type it is not known whose selection its map is for.
-/
namespace GraphGateway.Statement

open Cypher Request Schema Settings
open Naming (Spans)

/-- A looked-up node with a field under the key of its type. -/
def HidesTypeOf : RootField → Prop
  | .lookup _ _ variants => ∃ selection ∈ variants, HidesType selection
  | _ => False

theorem HidesTypeOf.hidesKey {field : RootField} (hides : HidesTypeOf field) : HidesKey field := by
  cases field with
  | lookup key id variants =>
      obtain ⟨selection, member, hidden⟩ := hides
      exact ⟨selection, member, .inl hidden⟩
  | _ => exact hides.elim

section

variable {stored : Stored} {sure : Prop}

/-- A row has the slots that its columns fill. -/
theorem hasSlots_of_row {possible : Possible} {columns : List Column} {entries : Entries Value}
    {slots : List Slot} (keys : entries.keys = Column.keys columns)
    (each : ∀ entry ∈ entries, Column.MayBe stored possible columns entry.1 entry.2)
    (enough : ∀ slot ∈ slots, slot.1 ∈ Column.keys columns ∧
      ∀ value, Column.MayBe stored possible columns slot.1 value → slot.2 value) :
    HasSlots sure slots (.object entries) := by
  intro slot member
  obtain ⟨inside, filling⟩ := enough slot member
  have there := (Entries.get?_isSome_iff entries slot.1).mpr (keys ▸ inside)
  obtain ⟨value, found⟩ := Option.isSome_iff_exists.mp there
  exact ⟨value, found, filling value (each _ (Entries.mem_of_get? found))⟩

/-- A row of one column has the slot under its name. -/
theorem hasSlots_of_single {possible : Possible} {item : Expression} {name : String}
    {entries : Entries Value} {good : Value → Prop}
    (keys : entries.keys = Column.keys [.as item name])
    (each : ∀ entry ∈ entries, Column.MayBe stored possible [.as item name] entry.1 entry.2)
    (makes : ∀ value, item.MayBe stored possible value → good value) :
    HasSlots sure [(name, good)] (.object entries) := by
  refine hasSlots_of_row keys each fun slot member => ?_
  rw [List.mem_singleton.mp member]
  exact ⟨List.mem_singleton_self _, fun value holds => makes value (Column.mayBe_as.mp holds)⟩

/-- The rows of a lookup have what its branches answer. -/
theorem hasSlots_of_branches {clauses : List Clause} {good : Value → Prop}
    (ends : Clause.answered clauses = [rootName])
    (maps : ∀ possible, ∀ answer ∈ Clause.answers stored possible clauses, ∀ value,
      Column.MayBe stored answer.2 answer.1 rootName value → good value) {row : Value}
    (may : Clause.MayRow stored
      [.subquery [] clauses, .answer [.kept rootName], .limit (.number 1)] row) :
    HasSlots sure [(rootName, good)] row := by
  obtain ⟨answer, inside, entries, rfl, keys, columns⟩ := may
  obtain rfl : answer = ([.kept rootName], Clause.after stored .unknown (.subquery [] clauses)) :=
    List.mem_singleton.mp inside
  refine hasSlots_of_row keys columns fun slot among => ?_
  rw [List.mem_singleton.mp among]
  refine ⟨List.mem_singleton_self _, fun value holds => ?_⟩
  obtain ⟨column, single, -, holds⟩ := holds
  rw [List.mem_singleton.mp single] at holds
  have left : Clause.after stored .unknown (.subquery [] clauses) rootName value := holds
  have rebound : rootName ∈ Clause.answered clauses := by
    rw [ends]
    exact List.mem_singleton_self _
  rw [Clause.after, Possible.rebind_of_mem rebound] at left
  obtain ⟨branch, among, holds⟩ := left
  exact maps _ branch among value holds

/-- The position of a created node is a number. -/
theorem int_of_position {possible : Possible} {columns : List Column} {created items : Expression}
    {value : Value} (holds : Clause.afterAll stored possible
      [.carry columns, .unwind (.positions items) "position",
        .carry (.as created rootName :: ["position", "matches"].map .kept)] "position" value) :
    ∃ number : Int, value = .int number := by
  have apart : "position" ≠ rootName := by decide
  have kept := holds (List.mem_cons_of_mem _ (List.mem_cons_self ..))
  obtain ⟨-, unwound⟩ := (Column.mayBe_iff.mp kept).resolve_left fun root => apart root.1
  obtain ⟨all, ⟨numbers, same, each⟩, member⟩ := Clause.mem_of_after_unwind unwound
  cases same
  obtain ⟨number, rfl⟩ := each value member
  exact ⟨number, rfl⟩

end

/-- What creates or connects entries answers nothing around its subqueries. -/
theorem emitEntries_silent (features : Features) (source : String) (entries : List EntryPlan) :
    Spans (emitEntries features source entries) fun _ _ answer =>
      ∀ clause ∈ answer.1, clause.returned = [] := by
  have each : ∀ supply, ∀ clause ∈ (emitEntries features source entries supply).1.1,
      clause.returned = [] := by
    induction entries with
    | nil => exact fun _ _ member => nomatch member
    | cons entry rest ih =>
        refine fun supply => List.forall_mem_cons.mpr ⟨?_, ih _⟩
        cases entry <;> rfl
  exact fun supply => ⟨(emitEntries_widen features source entries supply).1, each supply⟩

theorem emitConnectionUpdates_silent (source : String) (updates : List ConnectionUpdate) :
    Spans (emitConnectionUpdates source updates) fun _ _ answer =>
      ∀ clause ∈ answer.1, clause.returned = [] := by
  have each : ∀ supply, ∀ clause ∈ (emitConnectionUpdates source updates supply).1.1,
      clause.returned = [] := by
    induction updates with
    | nil => exact fun _ _ member => nomatch member
    | cons update rest ih => exact fun supply => List.forall_mem_cons.mpr ⟨rfl, ih _⟩
  exact fun supply => ⟨(emitConnectionUpdates_widen source updates supply).1, each supply⟩

theorem emitRoots_silent (features : Features) (nodes : List NodePlan) (index : Nat) :
    Spans (emitRoots features index nodes) fun _ _ answer =>
      ∀ clause ∈ answer.1, clause.returned = [] := by
  have each : ∀ index supply, ∀ clause ∈ (emitRoots features index nodes supply).1.1,
      clause.returned = [] := by
    induction nodes with
    | nil => exact fun _ _ _ member => nomatch member
    | cons node rest ih => exact fun index supply => List.forall_mem_cons.mpr ⟨rfl, ih _ _⟩
  exact fun supply => ⟨(emitRoots_passes features nodes index supply).1, each index supply⟩

section

variable {features : Features} {basis : Basis} {stored : Stored} {sure : Prop}
  (positions : sure → HasPositions stored features)

include positions

theorem emitVariant_answers {node : NodeType} {selection : NodeSelection} {plans : List FieldPlan}
    (id : Expression) (identifier : String) (named : node.name = selection.typeName)
    (keyed : NodeField.AllKeyed selection.fields)
    (apart : sure → ∀ field ∈ selection.fields, ¬ HidesOrder field) (shows_ : ¬ HidesType selection)
    (planned : basis.planFields node selection.fields = .ok plans) :
    Spans (emitVariant features id ⟨node.name, identifier, plans⟩) fun _ _ clauses =>
      ∀ possible, ∀ answer ∈ Clause.answers stored possible clauses, ∀ value,
        Column.MayBe stored answer.2 answer.1 rootName value →
          HasSlots sure (variantSlots sure selection) value := by
  refine .bind (emitFields_supplies positions node rootName selection.fields keyed.each apart plans
    planned) fun answer => .pure fun last start _ supplies possible => ?_
  have silent : ∀ clause ∈ [Clause.find (.node { name := rootName, label := some node.name }),
      .filter [.compare .equal (.property rootName identifier) id]] ++ answer.1,
      clause.returned = [] := by
    rw [List.forall_mem_append]
    simp only [List.forall_mem_cons]
    exact ⟨⟨rfl, rfl, fun _ member => nomatch member⟩, fun clause member =>
      (supplies.quiet clause member).returned_eq_nil⟩
  rw [Clause.answers_concat silent, Clause.afterAll_append]
  intro other member value holds
  rw [List.mem_singleton.mp member, Column.mayBe_as] at holds
  have distinct : ((variantSlots sure selection).map Prod.fst).Nodup := by
    refine List.nodup_cons.mpr ⟨fun hidden => shows_ ?_, nodeSlots_nodup sure keyed.distinct⟩
    rw [nodeSlots_keys] at hidden
    obtain ⟨field, inside, same⟩ := List.mem_map.mp hidden
    obtain ⟨among, projected⟩ := List.mem_filter.mp inside
    exact ⟨field, among, projected, same⟩
  refine FillsSlots.hasSlots_of_nodup ?_ distinct holds
  exact List.Forall₂.cons ⟨rfl, fun value same => named ▸ same⟩ (supplies.fills _ _ fun _ _ => rfl)

/-- Each branch of a lookup answers maps for the selection on one type. -/
theorem emitVariants_answers (id : Expression) {selections : List NodeSelection}
    {variants : List VariantPlan}
    (keyed : ∀ selection ∈ selections, NodeField.AllKeyed selection.fields)
    (apart : sure → ∀ selection ∈ selections, ∀ field ∈ selection.fields, ¬ HidesOrder field)
    (shows_ : ∀ selection ∈ selections, ¬ HidesType selection)
    (planned : basis.planVariants selections = .ok variants) :
    Spans (emitVariants features id variants) fun _ _ clauses =>
      ∀ possible, ∀ answer ∈ Clause.answers stored possible clauses, ∀ value,
        Column.MayBe stored answer.2 answer.1 rootName value →
          ∃ selection ∈ selections, HasSlots sure (variantSlots sure selection) value := by
  induction selections generalizing variants with
  | nil =>
      cases planned
      exact .pure fun _ _ _ member => nomatch member
  | cons selection rest ih =>
      obtain ⟨node, known, planned⟩ := Outcome.bind_ok_iff.mp planned
      obtain ⟨fields, here, planned⟩ := Outcome.bind_ok_iff.mp planned
      obtain ⟨others, later, made⟩ := Outcome.bind_ok_iff.mp planned
      cases made
      rw [List.forall_mem_cons] at keyed shows_
      rw [Failure.ofLookup, Outcome.mapError_ok_iff] at known
      have named := Model.node_name known
      refine .bind (emitVariant_answers positions id node.identifier.stored named keyed.1
        (fun holds => apart holds selection (List.mem_cons_self ..)) shows_.1 here) fun first => ?_
      refine .bind (ih keyed.2 (fun holds other member => apart holds other
        (List.mem_cons_of_mem _ member)) shows_.2 later) fun more => ?_
      refine .pure fun _ _ _ there _ _ begun possible answer member value holds => ?_
      rw [Clause.answers_append, Clause.answers_append, List.mem_append, List.mem_append] at member
      rcases member with (one | union) | other
      · exact ⟨selection, List.mem_cons_self .., begun _ answer one value holds⟩
      · split at union <;> cases union
      · obtain ⟨second, inside, has⟩ := there _ answer other value holds
        exact ⟨second, List.mem_cons_of_mem _ inside, has⟩

theorem emitResponse_supplies {node : NodeType} {fields : List ResponseField}
    {response : ResponsePlan}
    (keyed : ∀ key selection, .nodes key selection ∈ fields → NodeField.AllKeyed selection.fields)
    (apart : sure → ∀ key selection, .nodes key selection ∈ fields →
      ∀ field ∈ selection.fields, ¬ HidesOrder field)
    (planned : basis.planResponse node fields = .ok response) :
    Spans (emitResponse features response) fun start last answer =>
      Supplies stored start last (responseSlots sure fields) answer := by
  induction fields generalizing response with
  | nil =>
      cases planned
      exact .pure fun _ => .nil
  | cons field rest ih =>
      have keyed_ := fun key selection member =>
        keyed key selection (List.mem_cons_of_mem field member)
      have apart_ := fun holds key selection member =>
        apart holds key selection (List.mem_cons_of_mem field member)
      cases field with
      | leaf leaf => exact ih keyed_ apart_ planned
      | nodes key selection =>
          obtain ⟨first, here, planned⟩ := Outcome.bind_ok_iff.mp planned
          obtain ⟨others, later, made⟩ := Outcome.bind_ok_iff.mp planned
          cases made
          have nested := keyed key selection (List.mem_cons_self ..)
          refine .bind (emitFields_supplies positions node rootName selection.fields nested.each
            (fun holds => apart holds key selection (List.mem_cons_self ..)) first here)
            fun answer => .bind (ih keyed_ apart_ later) fun more => ?_
          refine .pure fun last middle behind there start before supplies => ?_
          have map : Supplies stored start middle
              [(key, IsNode (HasSlots sure (nodeSlots sure selection.fields)))]
              (answer.1, [(key, .map answer.2)]) :=
            supplies.map (nodeSlots_nodup sure nested.distinct) fun _ => .inr
          exact map.append before behind there

/-- Rows of a mutation have its data in the first column, and positions where these are kept. -/
theorem emitAnswer_rows {node : NodeType} {fields : List ResponseField} {response : ResponsePlan}
    {columns : List String}
    (keyed : ResponseField.AllKeyed fields)
    (apart : sure → ∀ key selection, .nodes key selection ∈ fields →
      ∀ field ∈ selection.fields, ¬ HidesOrder field)
    (planned : basis.planResponse node fields = .ok response) (other : "data" ∉ columns) :
    Spans (emitAnswer features response columns) fun _ _ clauses => ∀ before : List Clause,
      (∀ clause ∈ before, clause.returned = []) →
      (∀ value, "position" ∈ columns → Clause.afterAll stored .unknown before "position" value →
        ∃ number : Int, value = .int number) →
      ∀ row, Clause.MayRow stored (before ++ clauses) row → IsResponseRow sure fields row := by
  refine .bind (emitResponse_supplies positions keyed.each apart planned) fun answer => ?_
  refine .pure fun last start _ supplies before silent placed row may => ?_
  rw [← List.append_assoc] at may
  have quiet : ∀ clause ∈ before ++ answer.1, clause.returned = [] := by
    rw [List.forall_mem_append]
    exact ⟨silent, fun clause member => (supplies.quiet clause member).returned_eq_nil⟩
  obtain ⟨entries, rfl, keys, each⟩ := Clause.mayRow_concat quiet may
  rw [Clause.afterAll_append] at each
  refine ⟨hasSlots_of_row keys each fun slot member => ?_, entries, rfl, fun value found => ?_⟩
  · rw [List.mem_singleton.mp member]
    refine ⟨List.mem_cons_self .., fun value holds => ?_⟩
    rcases Column.mayBe_iff.mp holds with ⟨-, map⟩ | ⟨inside, -⟩
    · exact supplies.hasSlots (keyed.distinct.sublist (responseSlots_keys sure fields)) map
    · exact absurd inside other
  · have different : "position" ≠ "data" := by decide
    have holds := each _ (Entries.mem_of_get? found)
    obtain ⟨inside, holds⟩ := (Column.mayBe_iff.mp holds).resolve_left fun data => different data.1
    have apart : ¬ Between start last "position" := by
      rintro ⟨base, number, same, -⟩
      exact ne_numbered_of_not_mem (by decide) base number same
    rw [Clause.afterAll_of_quiet supplies.quiet apart] at holds
    exact placed value inside holds

/-- The rows of a list have the nodes that are listed. -/
theorem emit_list_reads {node : NodeType} {filter : List Assignment} {selection : NodeSelection}
    {fields : List FieldPlan} (keyed : NodeField.AllKeyed selection.fields)
    (apart : sure → ∀ field ∈ selection.fields, ¬ HidesOrder field)
    (planned : basis.planFields node selection.fields = .ok fields) :
    Spans (Plan.emit features (.list node.name filter fields)) fun _ _ clauses =>
      ∀ rows, Clause.MayAnswer stored clauses rows → (Shape.list selection).Reads sure rows := by
  refine .bind (emitConditions_variables rootName filter) fun conditions => ?_
  refine .bind (emitFields_supplies positions node rootName selection.fields keyed.each apart fields
    planned) fun answer => ?_
  refine .pure fun _ _ _ supplies _ _ _ rows may => ?_
  obtain ⟨items, rfl, each⟩ := may
  refine ⟨items, rfl, fun row member => ?_⟩
  have silent : ∀ clause ∈ .find (.node { name := rootName, label := some node.name }) ::
      (Clause.filtering conditions ++ answer.1), clause.returned = [] := by
    rw [List.forall_mem_cons, List.forall_mem_append]
    exact ⟨rfl, Clause.filtering_silent conditions, fun clause nested =>
      (supplies.quiet clause nested).returned_eq_nil⟩
  obtain ⟨entries, rfl, keys, columns⟩ := Clause.mayRow_concat silent (each row member)
  rw [← List.cons_append, Clause.afterAll_append] at columns
  exact hasSlots_of_single keys columns fun value holds =>
    .inr (supplies.hasSlots (nodeSlots_nodup sure keyed.distinct) holds)

/-- The row of a lookup has the node that was found by one of its branches. -/
theorem emit_lookup_reads {id : Value} {variants : List NodeSelection} {plans : List VariantPlan}
    (keyed : ∀ selection ∈ variants, NodeField.AllKeyed selection.fields)
    (apart : sure → ∀ selection ∈ variants, ∀ field ∈ selection.fields, ¬ HidesOrder field)
    (shows_ : ∀ selection ∈ variants, ¬ HidesType selection) (some_ : variants ≠ [])
    (planned : basis.planVariants variants = .ok plans) :
    Spans (Plan.emit features (.lookup id plans)) fun _ _ clauses =>
      ∀ rows, Clause.MayAnswer stored clauses rows → (Shape.lookup variants).Reads sure rows := by
  have known : plans ≠ [] := Basis.planVariants_ne_nil planned some_
  refine .bind (.bindValue id "id") fun parameter => ?_
  refine .bind (.and (emitVariants_scoped features parameter plans)
    (emitVariants_answers positions parameter keyed apart shows_ planned))
    fun clauses => .pure fun _ _ _ found _ _ bound rows may => ?_
  obtain ⟨name, rfl⟩ := bound
  obtain ⟨ends, maps⟩ := found
  obtain ⟨items, rfl, each⟩ := may
  exact ⟨items, rfl, fun row member =>
    hasSlots_of_branches ((ends rfl).2.1 known) maps (each row member)⟩

section

variable {node : NodeType} {response : ResponseSelection} {answer : ResponsePlan}
  (keyed : ResponseField.AllKeyed response.fields)
  (apart : sure → ∀ key selection, .nodes key selection ∈ response.fields →
    ∀ field ∈ selection.fields, ¬ HidesOrder field)
  (planned : basis.planResponse node response.fields = .ok answer)

include positions keyed apart planned

/-- The rows of a creation have its response and the positions of what was created. -/
theorem emit_create_reads (nodes : List NodePlan) :
    Spans (Plan.emit features (.create nodes answer)) fun _ _ clauses =>
      ∀ rows, Clause.MayAnswer stored clauses rows → (Shape.response response).Reads sure rows := by
  refine .bind (emitRoots_silent features nodes 0) fun roots => ?_
  refine .bind (emitAnswer_rows positions keyed apart planned (by decide)) fun answer => ?_
  refine .pure fun _ _ _ rows_ _ _ silent rows may => ?_
  obtain ⟨items, rfl, each⟩ := may
  refine ⟨items, rfl, fun row member => rows_ _ ?_ ?_ row (each row member)⟩
  · simp only [List.forall_mem_append, List.forall_mem_cons]
    exact ⟨silent, rfl, rfl, rfl, fun _ none_ => absurd none_ List.not_mem_nil⟩
  · intro value _ holds
    rw [Clause.afterAll_append] at holds
    exact int_of_position holds

/-- The rows of an update have its response. -/
theorem emit_update_reads (filter assignments : List Assignment)
    (entries : List EntryPlan) (connections : List ConnectionUpdate) :
    Spans (Plan.emit features (.update node.name filter assignments entries connections answer))
      fun _ _ clauses =>
        ∀ rows, Clause.MayAnswer stored clauses rows → (Shape.response response).Reads sure rows := by
  refine .bind (emitConditions_variables rootName filter) fun conditions => ?_
  refine .bind (emitAssignments_assignTo rootName assignments) fun assigned => ?_
  refine .bind (emitEntries_silent features rootName entries) fun nested => ?_
  refine .bind (emitConnectionUpdates_silent rootName connections) fun updated => ?_
  refine .bind (emitAnswer_rows positions keyed apart planned (by decide)) fun answer => ?_
  refine .pure fun _ _ _ rows_ _ _ changes _ _ enters _ _ _ _ _ _ rows may => ?_
  obtain ⟨items, rfl, each⟩ := may
  have before : ∀ clause ∈ Clause.find (.node { name := rootName, label := some node.name }) ::
      (Clause.filtering conditions ++ Clause.setting assigned ++
        [Clause.carry [Column.kept rootName]] ++ nested.1 ++ updated.1 ++
        [Clause.carry [Column.kept rootName,
          Column.as (concatenation (nested.2 ++ updated.2)) "matches"]]),
      clause.returned = [] := by
    simp only [List.forall_mem_append, List.forall_mem_cons]
    refine ⟨rfl, ⟨⟨⟨⟨Clause.filtering_silent conditions, Clause.setting_silent assigned⟩, rfl, ?_⟩,
      enters⟩, changes⟩, rfl, ?_⟩
    all_goals exact fun _ none_ => absurd none_ List.not_mem_nil
  exact ⟨items, rfl, fun row member => rows_ _ before
    (fun _ inside => absurd inside (by decide)) row (each row member)⟩

end

/-- The rows that a statement may answer are such as its root field is answered from. -/
theorem emit_reads {field : RootField} {plan : Plan} (keyed : field.Keyed)
    (apart : sure → ¬ HidesKey field) (shows_ : ¬ HidesTypeOf field)
    (planned : basis.plan field = .ok plan) :
    Spans (plan.emit features) fun _ _ clauses =>
      ∀ rows, Clause.MayAnswer stored clauses rows → (Shape.ofField field).Reads sure rows := by
  cases field with
  | typename key typeName => cases planned
  | list key typeName selection filter =>
      obtain ⟨node, -, planned⟩ := Outcome.bind_ok_iff.mp planned
      obtain ⟨condition, -, planned⟩ := Outcome.bind_ok_iff.mp planned
      obtain ⟨fields, here, made⟩ := Outcome.bind_ok_iff.mp planned
      cases made
      exact emit_list_reads positions keyed
        (fun holds field member hides => apart holds ⟨field, member, hides⟩) here
  | lookup key id variants =>
      rw [Basis.plan] at planned
      split at planned
      · cases planned
      · split at planned
        · cases planned
        · next some_ =>
          obtain ⟨plans, here, made⟩ := Outcome.bind_ok_iff.mp planned
          cases made
          exact emit_lookup_reads positions keyed
            (fun holds selection member field inside hides =>
              apart holds ⟨selection, member, .inr ⟨field, inside, hides⟩⟩)
            (fun selection member hides => shows_ ⟨selection, member, hides⟩)
            (fun empty => some_ (empty ▸ rfl)) here
  | create key typeName inputs response =>
      obtain ⟨node, -, planned⟩ := Outcome.bind_ok_iff.mp planned
      obtain ⟨nodes, -, planned⟩ := Outcome.bind_ok_iff.mp planned
      obtain ⟨answer, here, made⟩ := Outcome.bind_ok_iff.mp planned
      cases made
      exact emit_create_reads positions keyed (fun holds key selection member field inside hides =>
        apart holds ⟨key, selection, member, field, inside, hides⟩) here nodes
  | update key typeName response filter assignments connections =>
      obtain ⟨node, -, planned⟩ := Outcome.bind_ok_iff.mp planned
      obtain ⟨condition, -, planned⟩ := Outcome.bind_ok_iff.mp planned
      obtain ⟨given, -, planned⟩ := Outcome.bind_ok_iff.mp planned
      obtain ⟨⟨⟩, -, planned⟩ := Outcome.bind_ok_iff.mp planned
      obtain ⟨entries, -, planned⟩ := Outcome.bind_ok_iff.mp planned
      obtain ⟨wanted, -, planned⟩ := Outcome.bind_ok_iff.mp planned
      obtain ⟨updates, -, planned⟩ := Outcome.bind_ok_iff.mp planned
      obtain ⟨answer, here, made⟩ := Outcome.bind_ok_iff.mp planned
      cases made
      exact emit_update_reads positions keyed (fun holds key selection member field inside hides =>
        apart holds ⟨key, selection, member, field, inside, hides⟩) here condition _ entries updates

end

end GraphGateway.Statement
