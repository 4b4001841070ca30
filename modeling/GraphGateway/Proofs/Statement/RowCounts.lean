import GraphGateway.Proofs.Cypher.Counted
import GraphGateway.Proofs.Cypher.Sequenced
import GraphGateway.Proofs.Statement.Asked
import GraphGateway.Proofs.Statement.PlanScoping

/-!
Row counts of statements.  Every subquery of a list, a creation or an update leaves one row for each
row that it starts from, since its body gathers its rows in one before it answers, or has nothing in it
that could make more or fewer rows of one.  So only what a statement is about decides how many rows it
answers.
-/
namespace GraphGateway.Cypher.Clause

mutual

/-- Whether all subqueries in a clause, at any depth, leave one row of one. -/
def IsCalm : Clause → Prop
  | .subquery _ body => leavesOne true body = true ∧ AreCalm body
  | _ => True

def AreCalm : List Clause → Prop
  | [] => True
  | clause :: rest => clause.IsCalm ∧ AreCalm rest

end

theorem areCalm_append {clauses rest : List Clause} :
    AreCalm (clauses ++ rest) ↔ AreCalm clauses ∧ AreCalm rest := by
  induction clauses with
  | nil => simp [AreCalm]
  | cons clause others ih => simp [AreCalm, ih, and_assoc]

theorem AreCalm.of_mem {clauses : List Clause} (calm : AreCalm clauses) {clause : Clause}
    (member : clause ∈ clauses) : clause.IsCalm := by
  induction clauses with
  | nil => cases member
  | cons first rest ih =>
      rcases List.mem_cons.mp member with rfl | later
      · exact calm.1
      · exact ih calm.2 later

theorem AreCalm.within {clauses body : List Clause} (inside : Within body clauses)
    (calm : AreCalm clauses) : AreCalm body := by
  induction inside with
  | self clauses => exact calm
  | subquery member _ ih => exact ih (calm.of_mem member).2

/-- Clauses that each take one row to one row. -/
def KeepRows (clauses : List Clause) : Prop :=
  ∀ clause ∈ clauses, clause.projectsRows = true ∨ clause.extendsRows = true

/-- Clauses that only add to rows, and with them whatever subqueries are in them. -/
def ExtendRows (clauses : List Clause) : Prop :=
  (∀ clause ∈ clauses, clause.extendsRows = true) ∧ AreCalm clauses

section

variable {clauses rest : List Clause} {clause : Clause}

theorem ne_union_of_keeps (keeps : clause.projectsRows = true ∨ clause.extendsRows = true) :
    clause ≠ .union := by
  rintro rfl
  rcases keeps with impossible | impossible <;> cases impossible

theorem KeepRows.nil : KeepRows [] := fun _ member => absurd member List.not_mem_nil

theorem KeepRows.cons (first : clause.projectsRows = true ∨ clause.extendsRows = true)
    (others : KeepRows rest) : KeepRows (clause :: rest) :=
  List.forall_mem_cons.mpr ⟨first, others⟩

theorem KeepRows.append (first : KeepRows clauses) (others : KeepRows rest) :
    KeepRows (clauses ++ rest) := List.forall_mem_append.mpr ⟨first, others⟩

theorem KeepRows.plain (keep : KeepRows clauses) : .union ∉ clauses :=
  fun member => ne_union_of_keeps (keep _ member) rfl

theorem ExtendRows.nil : ExtendRows [] := ⟨fun _ member => absurd member List.not_mem_nil, trivial⟩

theorem ExtendRows.append (first : ExtendRows clauses) (others : ExtendRows rest) :
    ExtendRows (clauses ++ rest) :=
  ⟨List.forall_mem_append.mpr ⟨first.1, others.1⟩, areCalm_append.mpr ⟨first.2, others.2⟩⟩

theorem ExtendRows.keep (extending : ExtendRows clauses) : KeepRows clauses :=
  fun clause member => .inr (extending.1 clause member)

/-- One row stays one row. -/
theorem KeepRows.leavesOne (keep : KeepRows clauses) : leavesOne true clauses = true := by
  induction clauses with
  | nil => rfl
  | cons clause rest ih =>
      have first := keep clause (List.mem_cons_self ..)
      rw [leavesOne_cons (ne_union_of_keeps first), Bool.true_and,
        (Bool.or_eq_true _ _).mpr first, Bool.or_true]
      exact ih fun other member => keep other (List.mem_cons_of_mem _ member)

/-- One row is left behind what gathers, whatever stands before it. -/
theorem leavesOne_gathering (plain : .union ∉ clauses) (gathers : clause.gathersRows = true)
    (keep : KeepRows rest) (one : Bool) : leavesOne one (clauses ++ clause :: rest) = true := by
  induction clauses generalizing one with
  | nil =>
      have here : clause ≠ .union := by
        rintro rfl
        cases gathers
      rw [List.nil_append, leavesOne_cons here, gathers, Bool.true_or]
      exact keep.leavesOne
  | cons first others ih =>
      have here : first ≠ .union := fun same => plain (same ▸ List.mem_cons_self ..)
      rw [List.cons_append, leavesOne_cons here]
      exact ih (fun member => plain (List.mem_cons_of_mem _ member)) _

theorem endsInAnswer_concat (columns : List Column) :
    endsInAnswer (clauses ++ [.answer columns]) = true := by
  unfold endsInAnswer
  rw [List.getLast?_concat]

/-- A subquery that leaves one row and answers it. -/
theorem ExtendRows.subquery {imports : List String} {columns : List Column}
    (leaves : Clause.leavesOne true (clauses ++ [.answer columns]) = true)
    (calm : AreCalm clauses) :
    ExtendRows [.subquery imports (clauses ++ [.answer columns])] := by
  constructor
  · intro clause member
    rw [List.mem_singleton.mp member, extendsRows, leaves, endsInAnswer_concat]
    rfl
  · exact ⟨⟨leaves, areCalm_append.mpr ⟨calm, trivial, trivial⟩⟩, trivial⟩

/-- A subquery that gathers whatever rows it has when it answers. -/
theorem ExtendRows.gathering {imports : List String} {value : Expression} {name : String}
    (plain : .union ∉ clauses) (gathers : value.aggregates = true) (calm : AreCalm clauses) :
    ExtendRows [.subquery imports (clauses ++ [.answer [.as value name]])] := by
  refine .subquery (leavesOne_gathering plain ?_ .nil true) calm
  simp [gathersRows, Column.as, gathers]

end

end GraphGateway.Cypher.Clause

namespace GraphGateway.Statement

open Cypher Request Schema Settings
open Naming (Spans)
open Clause (AreCalm ExtendRows KeepRows)

/-- Clauses that only add to rows, with entries that are about single rows. -/
def AddsTo (answer : List Clause × MapEntries) : Prop :=
  ExtendRows answer.1 ∧ Expression.anyEntryAggregates answer.2 = false

theorem anyEntryAggregates_append (entries others : MapEntries) :
    Expression.anyEntryAggregates (entries ++ others) =
      (Expression.anyEntryAggregates entries || Expression.anyEntryAggregates others) := by
  induction entries with
  | nil => rfl
  | cons entry rest ih =>
      obtain ⟨key, item⟩ := entry
      simp [Expression.anyEntryAggregates, ih, Bool.or_assoc]

theorem AddsTo.append {clauses rest : List Clause} {entries others : MapEntries}
    (first : AddsTo (clauses, entries)) (second : AddsTo (rest, others)) :
    AddsTo (clauses ++ rest, entries ++ others) := by
  refine ⟨first.1.append second.1, ?_⟩
  rw [anyEntryAggregates_append, first.2, second.2]
  rfl

theorem emitPrevious_addsTo (features : Features) (source : String) (step : Step)
    (start : Option Expression) :
    Spans (emitPrevious features source step start) fun _ _ answer =>
      ExtendRows answer.1 ∧ answer.2.aggregates = false := by
  cases start with
  | none => exact .pure fun _ => ⟨.nil, rfl⟩
  | some start =>
      refine .bind (.newName "edge") fun edge => .bind (.newName "previous") fun previous => ?_
      refine .pure fun _ _ _ _ _ _ _ => ⟨?_, rfl⟩
      exact @ExtendRows.gathering [_, _] _ _ _ (by simp) rfl ⟨trivial, trivial, trivial⟩

theorem emitLimit_plain (limit : Option Value) :
    Spans (emitLimit limit) fun _ _ clauses => .union ∉ clauses ∧ AreCalm clauses := by
  cases limit with
  | none => exact .pure fun _ => ⟨List.not_mem_nil, trivial⟩
  | some limit =>
      refine .bind (.bindValue _ _) fun count => .pure fun _ _ _ _ => ⟨by simp, trivial, trivial⟩

mutual

theorem emitField_addsTo (features : Features) (source : String) : (plan : FieldPlan) →
    Spans (emitField features source plan) fun _ _ answer => AddsTo answer
  | .property _ _ => .pure fun _ => ⟨.nil, rfl⟩
  | .related key step fields => by
      refine .bind (.newName step.field) fun target => .bind (.newName "var") fun result => ?_
      refine .bind (emitFields_addsTo features target fields) fun nested => ?_
      refine .pure fun _ _ _ adds _ _ _ _ _ _ => ⟨?_, rfl⟩
      rw [← List.cons_append]
      refine .gathering ?_ ?_ ⟨trivial, adds.1.2⟩
      · simpa using adds.1.keep.plain
      · split <;> rfl
  | .connection key step page sets => by
      refine .bind (emitStart_variables page.start) fun start => .bind (.newName "edge") fun edge => ?_
      refine .bind (.newName step.field) fun target => .bind (.newName "edges") fun edges => ?_
      refine .bind (emitLimit_plain page.limit) fun limit => ?_
      refine .bind (emitSets_addsTo features edge target sets) fun nested => ?_
      refine .bind (emitPrevious_addsTo features source step start) fun before => ?_
      refine .pure fun _ _ _ previous _ _ adds _ _ limited _ _ _ _ _ _ _ _ _ _ _ _ => ?_
      refine ⟨@ExtendRows.append [_] _ (.gathering ?_ rfl ?_) previous.1, ?_⟩
      · simpa [limited.1] using adds.1.keep.plain
      · exact Clause.areCalm_append.mpr ⟨Clause.areCalm_append.mpr
          ⟨⟨trivial, trivial, trivial, trivial, trivial⟩, limited.2⟩, adds.1.2⟩
      · simp [Expression.anyEntryAggregates, Expression.aggregates, previous.2]

theorem emitFields_addsTo (features : Features) (source : String) : (plans : List FieldPlan) →
    Spans (emitFields features source plans) fun _ _ answer => AddsTo answer
  | [] => .pure fun _ => ⟨.nil, rfl⟩
  | plan :: rest => by
      refine .bind (emitField_addsTo features source plan) fun first => ?_
      refine .bind (emitFields_addsTo features source rest) fun others => ?_
      exact .pure fun _ _ _ later _ _ here => here.append later

theorem emitSets_addsTo (features : Features) (edge target : String) : (sets : List EdgeSetPlan) →
    Spans (emitSets features edge target sets) fun _ _ answer => AddsTo answer
  | [] => .pure fun _ => ⟨.nil, rfl⟩
  | .mk key fields :: rest => by
      refine .bind (emitEdges_addsTo features edge target fields) fun first => ?_
      refine .bind (emitSets_addsTo features edge target rest) fun others => ?_
      refine .pure fun _ _ _ later _ _ here => ⟨here.1.append later.1, ?_⟩
      simp [Expression.anyEntryAggregates, Expression.aggregates, here.2, later.2]

theorem emitEdges_addsTo (features : Features) (edge target : String) : (plans : List EdgePlan) →
    Spans (emitEdges features edge target plans) fun _ _ answer => AddsTo answer
  | [] => .pure fun _ => ⟨.nil, rfl⟩
  | .property key stored :: rest => by
      refine .bind (emitEdges_addsTo features edge target rest) fun others => ?_
      refine .pure fun _ _ _ later => ⟨later.1, ?_⟩
      simp [Expression.anyEntryAggregates, Expression.aggregates, later.2]
  | .node key fields :: rest => by
      refine .bind (emitFields_addsTo features target fields) fun nested => ?_
      refine .bind (emitEdges_addsTo features edge target rest) fun others => ?_
      refine .pure fun _ _ _ later _ _ here => ⟨here.1.append later.1, ?_⟩
      simp [Expression.anyEntryAggregates, Expression.aggregates, here.2, later.2]

end

theorem aggregates_concatenation (names : List String) :
    (concatenation names).aggregates = false := by
  have folded : ∀ (rest : List String) (first : Expression), first.aggregates = false →
      (rest.foldl (fun sum next => Expression.plus sum (.variable next)) first).aggregates =
        false := by
    intro rest
    induction rest with
    | nil => exact fun first plain => plain
    | cons next rest ih =>
        intro first plain
        refine ih _ ?_
        simp [Expression.aggregates, plain]
  cases names with
  | nil => rfl
  | cons name rest => exact folded rest (.variable name) rfl

theorem projects_kept (names : List String) :
    (Clause.carry (names.map Column.kept)).projectsRows = true := by
  simp [Clause.projectsRows, Column.kept, Expression.aggregates]

theorem extends_setting (assignments : List (Expression × Expression)) :
    ExtendRows (Clause.setting assignments) := by
  unfold Clause.setting
  split
  · exact .nil
  · exact ⟨by simp [Clause.extendsRows], trivial, trivial⟩

/-- What finds something under conditions has no subqueries. -/
theorem plain_finding (pattern : Pattern) (conditions : List Expression) :
    .union ∉ .find pattern :: Clause.filtering conditions ∧
      AreCalm (.find pattern :: Clause.filtering conditions) := by
  unfold Clause.filtering
  split
  · exact ⟨by simp, trivial, trivial⟩
  · exact ⟨by simp, trivial, trivial, trivial⟩

theorem emitDraw_extends (features : Features) (label : String) :
    Spans (emitDraw features label) fun _ _ answer => ExtendRows [answer.1] := by
  refine .bind (.newName "sequence") fun counter => .bind (.newName "seq") fun drawn => ?_
  refine .bind (.bindValue _ "sequence_name") fun name => .pure fun _ _ _ _ _ _ _ _ _ _ => ?_
  have keep : KeepRows [.merge counter features.sequenceLabel name,
      .setOnCreate (.counted counter) (.number 0),
      .set [(.counted counter, .plus (.counted counter) (.number 1))],
      .answer [.as (.counted counter) drawn]] :=
    .cons (.inr rfl) (.cons (.inr rfl) (.cons (.inr rfl) (.cons (.inl rfl) .nil)))
  exact @ExtendRows.subquery [_, _, _] _ _ keep.leavesOne ⟨trivial, trivial, trivial, trivial⟩

theorem emitRelationship_extends (features : Features) (source : String) (step : Step)
    (target : String) (properties : List Assignment) :
    Spans (emitRelationship features source step target properties) fun _ _ answer =>
      ExtendRows answer.1 := by
  refine .bind (emitDraw_extends features step.label) fun draw => .bind (.newName "edge") fun edge => ?_
  refine .bind (emitAssignments_assignTo edge properties) fun assignments => ?_
  refine .pure fun _ _ _ _ _ _ _ _ _ draws => ?_
  refine @ExtendRows.append _ [_, _] draws ⟨?_, trivial, trivial, trivial⟩
  simp [Clause.extendsRows]

/-- What finds entries, changes something for each and counts them leaves one row. -/
theorem extends_reporting {imports : List String} {finding changing : List Clause}
    (plain : .union ∉ finding) (calm : AreCalm finding) (changes : ExtendRows changing)
    (edge count report parameter : String) :
    ExtendRows [.subquery imports (finding ++ (changing ++
      ([.carry [.as (.count (.variable edge)) count]] ++
        [.answer [.as (.report (.parameter parameter) (.variable count)) report]])))] := by
  rw [← List.append_assoc, ← List.append_assoc]
  have before : .union ∉ finding ++ changing := by
    rw [List.mem_append, not_or]
    exact ⟨plain, changes.keep.plain⟩
  refine .subquery ?_ ?_
  · rw [List.append_assoc]
    exact Clause.leavesOne_gathering before rfl (.cons (.inl rfl) .nil) true
  · exact Clause.areCalm_append.mpr
      ⟨Clause.areCalm_append.mpr ⟨calm, changes.2⟩, trivial, trivial⟩

/-- Clauses that take one row to one row, and whose subqueries do. -/
def Keeping (clauses : List Clause) : Prop := KeepRows clauses ∧ AreCalm clauses

theorem Keeping.append {clauses rest : List Clause} (first : Keeping clauses)
    (second : Keeping rest) : Keeping (clauses ++ rest) :=
  ⟨first.1.append second.1, Clause.areCalm_append.mpr ⟨first.2, second.2⟩⟩

theorem Keeping.of_extends {clauses : List Clause} (extending : ExtendRows clauses) :
    Keeping clauses := ⟨extending.keep, extending.2⟩

/-- A body that keeps rows and then answers columns of single rows. -/
theorem extends_keeping {imports : List String} {clauses : List Clause} (keeping : Keeping clauses)
    {columns : List Column} (plain : (Clause.answer columns).projectsRows = true) :
    ExtendRows [.subquery imports (clauses ++ [.answer columns])] :=
  .subquery (keeping.1.append (.cons (.inl plain) .nil)).leavesOne keeping.2

mutual

theorem emitNode_keeping (features : Features) (name : String) (kept : List String) :
    (node : NodePlan) → Spans (emitNode features name kept node) fun _ _ answer => Keeping answer.1
  | .mk label identifier id properties entries => by
      refine .bind (emitIdentifier_variables id) fun expression => ?_
      refine .bind (emitAssignments_assignTo name properties) fun assignments => ?_
      refine .bind (emitEntries_extends features name entries) fun nested => ?_
      refine .pure fun _ _ _ extending _ _ _ _ _ _ => ?_
      refine @Keeping.append [_, _, _] _ ⟨?_, trivial, trivial, trivial, trivial⟩
        (.of_extends extending)
      exact .cons (.inr rfl) (.cons (.inr rfl) (.cons (.inl (projects_kept _)) .nil))

theorem emitEntry_extends (features : Features) (source : String) : (entry : EntryPlan) →
    Spans (emitEntry features source entry) fun _ _ answer => ExtendRows [answer.1]
  | .create step properties node => by
      refine .bind (.newName "create") fun target => .bind (.newName "matches") fun report => ?_
      refine .bind (emitNode_keeping features target [source] node) fun made => ?_
      refine .bind (emitRelationship_extends features source step target properties) fun related => ?_
      refine .pure fun _ _ _ relates _ _ creates _ _ _ _ _ _ => ?_
      refine extends_keeping (creates.append (.of_extends relates)) ?_
      simp [Clause.projectsRows, Column.as, aggregates_concatenation]
  | .connect step path filter properties => by
      refine .bind (.newName "connect") fun target => .bind (.newName "count") fun count => ?_
      refine .bind (.newName "matches") fun report => ?_
      refine .bind (emitConditions_variables target filter) fun conditions => ?_
      refine .bind (emitRelationship_extends features source step target properties) fun related => ?_
      refine .bind (emitReport_eq path related.2 count report) fun reported => ?_
      refine .pure fun _ _ _ answered _ _ relates _ _ _ _ _ _ _ _ _ _ _ _ => ?_
      obtain ⟨parameter, rfl⟩ := answered
      obtain ⟨plain, calm⟩ := plain_finding
        (.node { name := target, label := some step.target }) conditions
      rw [List.append_assoc, ← List.cons_append]
      exact extends_reporting plain calm relates _ _ _ _

theorem emitEntries_extends (features : Features) (source : String) : (entries : List EntryPlan) →
    Spans (emitEntries features source entries) fun _ _ answer => ExtendRows answer.1
  | [] => .pure fun _ => .nil
  | entry :: rest => by
      refine .bind (emitEntry_extends features source entry) fun first => ?_
      refine .bind (emitEntries_extends features source rest) fun others => ?_
      exact .pure fun _ _ _ later _ _ here => here.append later

end

theorem emitConnectionUpdate_extends (source : String) (update : ConnectionUpdate) :
    Spans (emitConnectionUpdate source update) fun _ _ answer => ExtendRows [answer.1] := by
  refine .bind (.newName "edge") fun edge => .bind (.newName "node") fun target => ?_
  refine .bind (.newName "count") fun count => .bind (.newName "matches") fun report => ?_
  refine .bind (emitConditions_variables target update.filter) fun conditions => ?_
  refine .bind (emitAssignments_assignTo edge update.properties) fun assignments => ?_
  refine .bind (emitReport_eq update.path edge count report) fun reported => ?_
  refine .pure fun _ _ _ answered _ _ _ _ _ _ _ _ _ _ _ _ _ _ _ _ _ _ => ?_
  obtain ⟨parameter, rfl⟩ := answered
  obtain ⟨plain, calm⟩ := plain_finding (update.step.pattern source edge target) conditions
  rw [List.append_assoc, ← List.cons_append]
  exact extends_reporting plain calm (extends_setting _) _ _ _ _

theorem emitConnectionUpdates_extends (source : String) (updates : List ConnectionUpdate) :
    Spans (emitConnectionUpdates source updates) fun _ _ answer => ExtendRows answer.1 := by
  induction updates with
  | nil => exact .pure fun _ => .nil
  | cons update rest ih =>
      refine .bind (emitConnectionUpdate_extends source update) fun first => .bind ih fun others => ?_
      exact .pure fun _ _ _ later _ _ here => here.append later

theorem emitResponse_addsTo (features : Features) (response : ResponsePlan) :
    Spans (emitResponse features response) fun _ _ answer => AddsTo answer := by
  induction response with
  | nil => exact .pure fun _ => ⟨.nil, rfl⟩
  | cons first rest ih =>
      obtain ⟨key, fields⟩ := first
      refine .bind (emitFields_addsTo features rootName fields) fun nested => .bind ih fun others => ?_
      refine .pure fun _ _ _ later _ _ here => ⟨here.1.append later.1, ?_⟩
      simp [Expression.anyEntryAggregates, Expression.aggregates, here.2, later.2]

theorem emitAnswer_keeping (features : Features) (response : ResponsePlan) (columns : List String) :
    Spans (emitAnswer features response columns) fun _ _ clauses => Keeping clauses := by
  refine .bind (emitResponse_addsTo features response) fun nested => .pure fun _ _ _ adds => ?_
  refine (Keeping.of_extends adds.1).append ⟨.cons (.inl ?_) .nil, trivial, trivial⟩
  simp [Clause.projectsRows, Column.as, Column.kept, Expression.aggregates, adds.2]

theorem emitRoots_extends (features : Features) (nodes : List NodePlan) :
    ∀ index, Spans (emitRoots features index nodes) fun _ _ answer =>
      ExtendRows answer.1 ∧ answer.2.length = nodes.length := by
  induction nodes with
  | nil => exact fun index => .pure fun _ => ⟨.nil, rfl⟩
  | cons node rest ih =>
      intro index
      refine .bind (emitNode_keeping features (rootAt index) [] node) fun made => ?_
      refine .bind (ih (index + 1)) fun others => ?_
      refine .pure fun _ _ _ later _ _ keeping => ⟨?_, congrArg Nat.succ later.2⟩
      refine @ExtendRows.append [_] _ (extends_keeping keeping ?_) later.1
      simp [Clause.projectsRows, Column.as, Column.kept, aggregates_concatenation,
        Expression.aggregates]

/-- The clauses that find the nodes a statement is about. -/
def rootClauses (label : String) (conditions : List Expression) : List Clause :=
  .find (.node { name := rootName, label := some label }) :: Clause.filtering conditions

/-- The clauses that make each created node the node of the answer in turn. -/
def positionClauses (names : List String) : List Clause :=
  [.carry [.as (.list (names.map .variable)) "created",
      .as (concatenation (names.map reportsOf)) "matches"],
    .unwind (.positions (.variable "created")) "position",
    .carry [.as (.at (.variable "created") (.variable "position")) rootName,
      .kept "position", .kept "matches"]]

/-- How the clauses of a plan are put together: what they are about, and what keeps the rows of that.
-/
def Plan.Laid (clauses : List Clause) : Plan → Prop
  | .list label _ _ | .update label _ _ _ _ _ => ∃ conditions rest,
      clauses = rootClauses label conditions ++ rest ∧ Keeping rest
  | .create nodes _ => ∃ roots names rest, clauses = roots ++ positionClauses names ++ rest ∧
      ExtendRows roots ∧ names.length = nodes.length ∧ Keeping rest
  | .lookup _ _ => True

theorem emit_laid (features : Features) (plan : Plan) :
    Spans (plan.emit features) fun _ _ clauses => plan.Laid clauses := by
  cases plan with
  | list label filter fields =>
      refine .bind (emitConditions_variables rootName filter) fun conditions => ?_
      refine .bind (emitFields_addsTo features rootName fields) fun nested => ?_
      refine .pure fun _ _ _ adds _ _ _ => ?_
      refine ⟨conditions, nested.1 ++ [.answer [.as (.map nested.2) rootName]], ?_, ?_⟩
      · rw [rootClauses, List.cons_append, List.append_assoc]
      · refine (Keeping.of_extends adds.1).append ⟨.cons (.inl ?_) .nil, trivial, trivial⟩
        simp [Clause.projectsRows, Column.as, Expression.aggregates, adds.2]
  | lookup id variants =>
      refine .bind (.bindValue id "id") fun parameter => ?_
      exact (emitVariants_scoped features parameter variants).bind fun _ => .pure fun _ _ _ _ _ _ _ =>
        trivial
  | create nodes response =>
      refine .bind (emitRoots_extends features nodes 0) fun roots => ?_
      refine .bind (emitAnswer_keeping features response ["position", "matches"]) fun answer => ?_
      exact .pure fun _ _ _ keeping _ _ extending =>
        ⟨roots.1, roots.2, answer, rfl, extending.1, extending.2, keeping⟩
  | update label filter assignments entries connections response =>
      refine .bind (emitConditions_variables rootName filter) fun conditions => ?_
      refine .bind (emitAssignments_assignTo rootName assignments) fun assigned => ?_
      refine .bind (emitEntries_extends features rootName entries) fun nested => ?_
      refine .bind (emitConnectionUpdates_extends rootName connections) fun updates => ?_
      refine .bind (emitAnswer_keeping features response ["matches"]) fun answer => ?_
      refine .pure fun _ _ _ keeping _ _ updating _ _ entering _ _ _ _ _ _ => ?_
      refine ⟨conditions, Clause.setting assigned ++ ([.carry [.kept rootName]] ++ (nested.1 ++
        (updates.1 ++ ([.carry [.kept rootName, .as (concatenation (nested.2 ++ updates.2))
          "matches"]] ++ answer)))), ?_, ?_⟩
      · simp only [rootClauses, List.cons_append, List.append_assoc]
      · have kept : Keeping [.carry [.kept rootName]] := ⟨.cons (.inl rfl) .nil, trivial, trivial⟩
        have gathered : Keeping [.carry [.kept rootName, .as (concatenation (nested.2 ++ updates.2))
            "matches"]] := by
          refine ⟨.cons (.inl ?_) .nil, trivial, trivial⟩
          simp [Clause.projectsRows, Column.as, Column.kept, Expression.aggregates,
            aggregates_concatenation]
        exact (Keeping.of_extends (extends_setting assigned)).append (kept.append
          ((Keeping.of_extends entering).append ((Keeping.of_extends updating).append
            (gathered.append keeping))))

theorem Plan.Laid.calm {plan : Plan} {clauses : List Clause} (laid : plan.Laid clauses)
    (other : ∀ id variants, plan ≠ .lookup id variants) : AreCalm clauses := by
  have rooted : ∀ label, (∃ conditions rest, clauses = rootClauses label conditions ++ rest ∧
      Keeping rest) → AreCalm clauses := by
    rintro label ⟨conditions, rest, rfl, keeping⟩
    exact Clause.areCalm_append.mpr ⟨(plain_finding _ conditions).2, keeping.2⟩
  cases plan with
  | list label _ _ => exact rooted label laid
  | update label _ _ _ _ _ => exact rooted label laid
  | lookup id variants => exact absurd rfl (other id variants)
  | create nodes response =>
      obtain ⟨roots, names, rest, rfl, extending, -, keeping⟩ := laid
      exact Clause.areCalm_append.mpr
        ⟨Clause.areCalm_append.mpr ⟨extending.2, trivial, trivial, trivial, trivial⟩, keeping.2⟩

section

variable {σ : Type} (db : Database σ) (parameters : Entries Value)

theorem rows_through {clauses : List Clause} (keep : KeepRows clauses) {flow : Flow σ}
    (ready : flow.waiting = none) :
    (Clause.through db parameters clauses flow).rows.length = flow.rows.length ∧
      (Clause.through db parameters clauses flow).waiting = none := by
  induction clauses generalizing flow with
  | nil => exact ⟨rfl, ready⟩
  | cons clause rest ih =>
      have others : KeepRows rest := fun other member => keep other (List.mem_cons_of_mem _ member)
      have first : (clause.run db parameters flow).rows.length = flow.rows.length ∧
          (clause.run db parameters flow).waiting = none := by
        rcases keep clause (List.mem_cons_self ..) with projects | extending
        · exact Clause.run_projects projects ready
        · obtain ⟨each, still⟩ := Clause.run_extends clause extending ready
          exact ⟨each.length_eq.symm, still⟩
      obtain ⟨length, still⟩ := ih others first.2
      exact ⟨length.trans first.1, still⟩

/-- The nodes that a statement is about: those with its label that its conditions are true of. -/
def rootNodes (label : String) (conditions : List Expression) (state : σ) : List Value :=
  (db.nodes (some label) state).filter fun node =>
    Row.satisfies db parameters state conditions [(rootName, node)]

theorem through_rootClauses (label : String) (conditions : List Expression) (state : σ) :
    Clause.through db parameters (rootClauses label conditions) { rows := [[]], state } =
      { rows := (rootNodes db parameters label conditions state).map fun node => [(rootName, node)]
        state } := by
  have found : Clause.through db parameters
      [.find (.node { name := rootName, label := some label })] { rows := [[]], state } =
      { rows := (db.nodes (some label) state).map fun node => [(rootName, node)], state } := by
    change Cypher.Flow.mk ([[]].flatMap _) state none = _
    rw [List.flatMap_singleton]
    rfl
  rw [rootClauses, ← List.singleton_append, Clause.through_append, found]
  unfold Clause.filtering
  cases conditions with
  | nil =>
      have all : rootNodes db parameters label [] state = db.nodes (some label) state :=
        List.filter_eq_self.mpr fun _ _ => rfl
      rw [all]
      rfl
  | cons condition rest =>
      change Cypher.Flow.mk (List.filter _ (List.map _ _)) state none = _
      rw [List.filter_map]
      rfl

theorem values_length (state : σ) (group : List Row) (row : Row) (items : List Expression) :
    (Expression.values db parameters state group row items).length = items.length := by
  induction items with
  | nil => rfl
  | cons item rest ih => exact congrArg Nat.succ ih

theorem anyAggregates_variables (names : List String) :
    Expression.anyAggregates (names.map .variable) = false := by
  induction names with
  | nil => rfl
  | cons name rest ih => exact ih

/-- Behind one row with created nodes there is one row for each of them. -/
theorem rows_through_positionClauses (names : List String) {flow : Flow σ}
    (single : flow.rows.length = 1) (ready : flow.waiting = none) :
    (Clause.through db parameters (positionClauses names) flow).rows.length = names.length ∧
      (Clause.through db parameters (positionClauses names) flow).waiting = none := by
  have plain : ∀ column ∈ [Column.as (.list (names.map .variable)) "created",
      Column.as (concatenation (names.map reportsOf)) "matches"],
      column.value.aggregates = false := by
    simp [Column.as, Expression.aggregates, anyAggregates_variables, aggregates_concatenation]
  obtain ⟨row, alone⟩ := List.length_eq_one_iff.mp single
  obtain ⟨rows, state, waiting⟩ := flow
  cases ready
  cases alone
  -- The list of the created nodes is as long as that of their names, whatever they are.
  have carried : Clause.run db parameters (.carry [.as (.list (names.map .variable)) "created",
      .as (concatenation (names.map reportsOf)) "matches"]) { rows := [row], state } =
      { rows := [[("created", .list (Expression.values db parameters state [row] row
          (names.map .variable))), ("matches", (concatenation (names.map reportsOf)).value db
            parameters state [row] row)]], state } := by
    change Cypher.Flow.mk (Column.project _ _ _ _ _) _ _ = _
    rw [Column.project_of_none db parameters plain]
    rfl
  have unwound : ∀ (items : List Value) (other : Value),
      (Clause.run db parameters (.unwind (.positions (.variable "created")) "position")
        { rows := [[("created", .list items), ("matches", other)]], state }).rows.length =
        items.length := by
    intro items other
    change (List.flatMap _ [_]).length = _
    rw [List.flatMap_singleton, List.length_map]
    change (List.map _ (List.range items.length)).length = _
    rw [List.length_map, List.length_range]
  rw [positionClauses, ← List.singleton_append, Clause.through_append]
  change (Clause.run _ _ _ (Clause.run _ _ _ (Clause.run _ _ _ _))).rows.length = _ ∧
    (Clause.run _ _ _ (Clause.run _ _ _ (Clause.run _ _ _ _))).waiting = _
  rw [carried]
  have last (flow : Flow σ) (ready : flow.waiting = none) := @Clause.run_projects σ db parameters
    (.carry [.as (.at (.variable "created") (.variable "position")) rootName,
      .kept "position", .kept "matches"]) rfl flow ready
  refine ⟨(last _ ?ready).1.trans ?count, (last _ ?ready).2⟩
  case ready => rfl
  case count => rw [unwound, values_length, List.length_map]

/-- A statement that is laid out so comes to what its clauses make of one row. -/
theorem Plan.Laid.result_eq {plan : Plan} {clauses : List Clause} (laid : plan.Laid clauses)
    (other : ∀ id variants, plan ≠ .lookup id variants) (state : σ) :
    Clause.result db parameters clauses state =
      Clause.through db parameters clauses { rows := [[]], state } := by
  have plainly (plain : .union ∉ clauses)
      (still : (Clause.through db parameters clauses { rows := [[]], state }).waiting = none) :
      Clause.result db parameters clauses state =
        Clause.through db parameters clauses { rows := [[]], state } := by
    rw [Clause.result, Clause.runFrom, Clause.runAll_eq plain, Flow.settled_of_none _ _ still]
  have rooted : ∀ label, (∃ conditions rest, clauses = rootClauses label conditions ++ rest ∧
      Keeping rest) → Clause.result db parameters clauses state =
        Clause.through db parameters clauses { rows := [[]], state } := by
    rintro label ⟨conditions, rest, rfl, keeping⟩
    apply plainly
    · rw [List.mem_append, not_or]
      exact ⟨(plain_finding _ conditions).1, keeping.1.plain⟩
    · rw [Clause.through_append, through_rootClauses]
      exact (rows_through db parameters keeping.1 rfl).2
  cases plan with
  | list label filter fields => exact rooted label laid
  | update label filter assignments entries connections response => exact rooted label laid
  | lookup id variants => exact absurd rfl (other id variants)
  | create nodes response =>
      obtain ⟨roots, names, rest, rfl, extending, -, keeping⟩ := laid
      apply plainly
      · simp [positionClauses, extending.keep.plain, keeping.1.plain]
      · have created := rows_through db parameters extending.keep
          (show (Cypher.Flow.mk [[]] state none).waiting = none from rfl)
        have placed := rows_through_positionClauses db parameters names created.1 created.2
        rw [Clause.through_append, Clause.through_append]
        exact (rows_through db parameters keeping.1 placed.2).2

/-- A statement that is laid out so answers a row for each node that it is about. -/
theorem Plan.Laid.rows_length {plan : Plan} {clauses : List Clause} (laid : plan.Laid clauses)
    (state : σ) :
    match plan with
    | .list label _ _ | .update label _ _ _ _ _ => ∃ conditions rest,
        clauses = rootClauses label conditions ++ rest ∧
          (Clause.result db parameters clauses state).rows.length =
            (rootNodes db parameters label conditions state).length
    | .create nodes _ =>
        (Clause.result db parameters clauses state).rows.length = nodes.length
    | .lookup _ _ => True := by
  have rooted : ∀ label, Clause.result db parameters clauses state =
      Clause.through db parameters clauses { rows := [[]], state } →
      (∃ conditions rest, clauses = rootClauses label conditions ++ rest ∧ Keeping rest) →
        ∃ conditions rest, clauses = rootClauses label conditions ++ rest ∧
          (Clause.result db parameters clauses state).rows.length =
            (rootNodes db parameters label conditions state).length := by
    rintro label whole ⟨conditions, rest, rfl, keeping⟩
    refine ⟨conditions, rest, rfl, ?_⟩
    rw [whole, Clause.through_append, through_rootClauses]
    exact (rows_through db parameters keeping.1 rfl).1.trans (List.length_map _)
  cases plan with
  | list label filter fields => exact rooted label (laid.result_eq db parameters nofun state) laid
  | update label filter assignments entries connections response =>
      exact rooted label (laid.result_eq db parameters nofun state) laid
  | lookup id variants => trivial
  | create nodes response =>
      have whole := laid.result_eq db parameters nofun state
      obtain ⟨roots, names, rest, rfl, extending, count, keeping⟩ := laid
      have created := rows_through db parameters extending.keep
        (show (Cypher.Flow.mk [[]] state none).waiting = none from rfl)
      have placed := rows_through_positionClauses db parameters names created.1 created.2
      change (Clause.result db parameters _ state).rows.length = _
      rw [whole, Clause.through_append, Clause.through_append]
      exact (rows_through db parameters keeping.1 placed.2).1.trans (placed.1.trans count)

end

/-- Whether a root field looks up one node. -/
def looksUp : RootField → Bool
  | .lookup _ _ _ => true
  | _ => false

/-- Nesting keeps the number of rows.

Whatever a list, a creation or an update selects or nests at whatever depth, and whatever the database
holds, every subquery of its statement leaves one row of whatever row it starts from.  So a list and an
update answer a row for each node of their type that their conditions are true of, and a creation
answers a row for each of its inputs. -/
theorem Basis.compile_rowCounts {basis : Basis} {field : RootField} {compiled : Compiled}
    (compiles : basis.compile field = .ok compiled) (other : looksUp field = false) :
    ∃ plan clauses, basis.plan field = .ok plan ∧ clauses = (plan.emit basis.features {}).1 ∧
      compiled.text = Clause.text clauses ∧
      ∀ {σ : Type} (db : Database σ),
        (∀ body, Clause.Within body clauses → ∀ imports inner, .subquery imports inner ∈ body →
          ∀ row state, (Clause.runFrom db compiled.parameters inner row state).rows.length = 1) ∧
        ∀ state, match field with
          | .list _ typeName _ _ | .update _ typeName _ _ _ _ => ∃ node conditions rest,
              basis.model.node typeName = .ok node ∧
              clauses = rootClauses node.name conditions ++ rest ∧
              (Clause.result db compiled.parameters clauses state).rows.length =
                (rootNodes db compiled.parameters node.name conditions state).length
          | .create _ _ inputs _ =>
              (Clause.result db compiled.parameters clauses state).rows.length = inputs.length
          | _ => True := by
  obtain ⟨plan, planned, made⟩ := Outcome.bind_ok_iff.mp compiles
  cases made
  have laid : plan.Laid (plan.emit basis.features {}).1 := (emit_laid basis.features plan).run
  refine ⟨plan, _, planned, rfl, rfl, fun db => ⟨?single, fun state => ?count⟩⟩
  case single =>
    have unlike : ∀ id variants, plan ≠ .lookup id variants := by
      rintro id variants rfl
      have told := plan_told planned
      cases field with
      | list key typeName selection filter =>
          obtain ⟨_, _, _, -, impossible⟩ := told
          cases impossible
      | create key typeName inputs response =>
          obtain ⟨_, _, _, -, -, impossible⟩ := told
          cases impossible
      | update key typeName response filter assignments connections =>
          obtain ⟨_, _, _, _, _, _, _, -, -, -, -, -, -, impossible⟩ := told
          cases impossible
      | lookup key id variants => cases other
      | typename key typeName => exact told
    intro body inside imports inner member row state
    have leaves := ((laid.calm unlike).within inside).of_mem member
    exact Clause.runAll_one inner true leaves.1 _ (fun _ => ⟨rfl, rfl⟩) [row]
  case count =>
    have rows := laid.rows_length db (plan.emit basis.features {}).2.parameters state
    have told := plan_told planned
    cases field with
    | list key typeName selection filter =>
        obtain ⟨node, _, _, found, rfl⟩ := told
        obtain ⟨conditions, rest, same, length⟩ := rows
        exact ⟨node, conditions, rest, found, same, length⟩
    | create key typeName inputs response =>
        obtain ⟨node, nodes, _, -, each, rfl⟩ := told
        have count : nodes.length = inputs.zipIdx.length :=
          (Outcome.mapM_ok_iff.mp each).length_eq.symm
        rw [List.length_zipIdx] at count
        exact rows.trans count
    | update key typeName response filter assignments connections =>
        obtain ⟨node, _, _, _, _, _, _, found, -, -, -, -, -, rfl⟩ := told
        obtain ⟨conditions, rest, same, length⟩ := rows
        exact ⟨node, conditions, rest, found, same, length⟩
    | lookup key id variants => trivial
    | typename key typeName => trivial

/-- Two movies are asked for, one of them with an actor to create and one to connect; two rows are
answered, however many there are to connect. -/
theorem compile_rowCounts_filmed :
    ∃ compiled clauses, filming.compile filmedTwice = .ok compiled ∧
      compiled.text = Clause.text clauses ∧
      ∀ {σ : Type} (db : Database σ),
        (∀ body, Clause.Within body clauses → ∀ imports inner, .subquery imports inner ∈ body →
          ∀ row state, (Clause.runFrom db compiled.parameters inner row state).rows.length = 1) ∧
        ∀ state, (Clause.result db compiled.parameters clauses state).rows.length = 2 := by
  have compiles : filming.compile filmedTwice = _ := Outcome.eq_ok_of_isSome (by decide +kernel)
  obtain ⟨plan, clauses, -, -, text, counts⟩ := Basis.compile_rowCounts compiles rfl
  exact ⟨_, clauses, compiles, text, counts⟩

end GraphGateway.Statement
