import GraphGateway.Proofs.Cypher.Counted
import GraphGateway.Proofs.Statement.Effect
import GraphGateway.Proofs.Statement.RowCounts
import GraphGateway.Proofs.Statement.Tally

/-!
Reports of matches.  Every entry that connects or updates has a variable with its own report behind its
subquery.  What is created around it joins the reports of the entries in it in one variable, up to the
rows of the statement, whose `matches` hold one report for each path in the order of the paths.
-/
namespace GraphGateway.Cypher.Naming

variable {α : Type} {naming : Naming α} {fact : α → Entries Value → Prop} {goal : α → Prop}

/-- What is ensured holds together with what is so whatever the numbers are. -/
theorem Ensures.spanning (first : Ensures naming fact)
    (second : Spans naming fun _ _ answer => goal answer) :
    Ensures naming fun answer parameters => goal answer ∧ fact answer parameters := by
  intro supply sound
  obtain ⟨final, grown, holds⟩ := first supply sound
  exact ⟨final, grown, fun later extended => ⟨(second supply).2, holds later extended⟩⟩

end GraphGateway.Cypher.Naming

namespace GraphGateway.Statement

open Cypher Request Settings
open Clause (AreScoped ExtendRows KeepRows)
open Naming (Ensures Spans Holds)

/-- An item that reports some number of matches of a path. -/
def ReportsPath (item : Value) (path : String) : Prop :=
  ∃ matched, IsReport item (path, matched)

/-- A variable with reports of some paths, in their order. -/
def RowHolds (row : Row) (name : String) (paths : List String) : Prop :=
  ∃ items, row.get? name = some (.list items) ∧ List.Forall₂ ReportsPath items paths

theorem RowHolds.of_keeps {scope : Scope} {row out : Row} {name : String} {paths : List String}
    (holds : RowHolds row name paths) (keeps : Row.Keeps scope row out) (member : name ∈ scope) :
    RowHolds out name paths := by
  obtain ⟨items, found, reports⟩ := holds
  exact ⟨items, (keeps name member).trans found, reports⟩

/-- What a row holds as its matches is what it reports. -/
theorem RowHolds.reports {row : Row} {paths : List String} (holds : RowHolds row "matches" paths) :
    ∃ reports, RowReports (.object row) reports ∧ reports.map Prod.fst = paths := by
  obtain ⟨items, found, each⟩ := holds
  have told : ∃ reports, List.Forall₂ IsReport items reports ∧ reports.map Prod.fst = paths := by
    clear found
    induction each with
    | nil => exact ⟨[], .nil, rfl⟩
    | @cons item path items paths first _ ih =>
        obtain ⟨matched, report⟩ := first
        obtain ⟨others, later, rfl⟩ := ih
        exact ⟨(path, matched) :: others, .cons report later, rfl⟩
  obtain ⟨reports, listed, same⟩ := told
  refine ⟨reports, ⟨row, items, rfl, ?_, listed⟩, same⟩
  have here : (Entries.get? row "matches").getD .null = .list items := by
    rw [found]
    rfl
  rw [here, itemsOf_list]

theorem all_of_keeps {scope : Scope} {row out : Row} (keeps : Row.Keeps scope row out)
    {names : List String} {groups : List (List String)}
    (holds : List.Forall₂ (RowHolds row) names groups) (inside : names ⊆ scope) :
    List.Forall₂ (RowHolds out) names groups := by
  induction holds with
  | nil => exact .nil
  | cons first _ ih =>
      obtain ⟨here, later⟩ := List.cons_subset.mp inside
      exact .cons (first.of_keeps keeps here) (ih later)

section

variable {σ : Type} {db : Database σ} {parameters : Entries Value}

/-- Joined variables hold all the reports that each of them holds. -/
theorem value_concatenation {row : Row} {names : List String} {groups : List (List String)}
    (holds : List.Forall₂ (RowHolds row) names groups) (state : σ) :
    ∃ items, row.value db parameters state (concatenation names) = .list items ∧
      List.Forall₂ ReportsPath items groups.flatten := by
  have joined : ∀ {names groups}, List.Forall₂ (RowHolds row) names groups →
      ∀ {sum items paths}, row.value db parameters state sum = .list items →
        List.Forall₂ ReportsPath items paths →
          ∃ all, row.value db parameters state
              (names.foldl (fun sum next => Expression.plus sum (.variable next)) sum) = .list all ∧
            List.Forall₂ ReportsPath all (paths ++ groups.flatten) := by
    intro names groups holds
    induction holds with
    | nil =>
        intro sum items paths same reports
        exact ⟨items, same, by simpa using reports⟩
    | @cons name group names groups first _ ih =>
        intro sum items paths same reports
        obtain ⟨others, found, more⟩ := first
        have next : row.value db parameters state (.plus sum (.variable name)) =
            .list (items ++ others) := by
          change Database.sum db (row.value db parameters state sum) ((row.get? name).getD .null) = _
          rw [same, found]
          rfl
        obtain ⟨all, whole, each⟩ := ih next (List.rel_append reports more)
        refine ⟨all, whole, ?_⟩
        rw [List.flatten_cons, ← List.append_assoc]
        exact each
  cases holds with
  | nil => exact ⟨[], rfl, .nil⟩
  | @cons name group names groups first rest =>
      obtain ⟨items, found, reports⟩ := first
      have here : row.value db parameters state (.variable name) = .list items := by
        change (row.get? name).getD .null = _
        rw [found]
        rfl
      exact joined rest here reports

end

/-- Clauses behind which variables hold the reports of some groups of paths, one variable for each
group. -/
structure Reporting (parameters : Entries Value) (answer : List Clause × List String)
    (groups : List (List String)) : Prop where
  inScope : ∀ scope, answer.2 ⊆ answer.1.foldl Clause.behind scope
  holds : ∀ {σ : Type} (db : Database σ) (outer scope : Scope) (flow : Flow σ),
    AreScoped outer scope answer.1 → flow.waiting = none →
      ∀ out ∈ (Clause.through db parameters answer.1 flow).rows,
        List.Forall₂ (RowHolds out) answer.2 groups

section

variable {parameters : Entries Value} {clauses rest : List Clause} {names others : List String}
  {groups more : List (List String)}

theorem Reporting.nil : Reporting parameters ([], []) [] :=
  ⟨fun _ => List.nil_subset _, fun _ _ _ _ _ _ _ _ => .nil⟩

theorem Reporting.append (first : Reporting parameters (clauses, names) groups)
    (keep : KeepRows clauses) (second : Reporting parameters (rest, others) more)
    (extending : ExtendRows rest) :
    Reporting parameters (clauses ++ rest, names ++ others) (groups ++ more) := by
  constructor
  · intro scope
    rw [List.foldl_append]
    refine List.append_subset.mpr ⟨?_, second.inScope _⟩
    exact List.Subset.trans (first.inScope scope) (Clause.subset_foldl_behind extending.1 _)
  · intro σ db outer scope flow lawful ready out member
    obtain ⟨here, later⟩ := Clause.areScoped_append_iff.mp lawful
    rw [Clause.through_append] at member
    obtain ⟨-, still⟩ := rows_through db parameters keep ready
    obtain ⟨-, comes⟩ := @Clause.through_keeps _ _ _ _ db parameters later extending.1 _ still
    obtain ⟨row, before, keeps⟩ := comes out member
    have kept := all_of_keeps keeps (first.holds db outer scope flow here ready row before)
      (first.inScope scope)
    exact List.rel_append kept (second.holds db _ _ _ later still out member)

/-- A subquery with one more variable than the rows around it. -/
theorem inScope_subquery {imports : List String} {columns : List Column} {name : String}
    (answers : name ∈ Column.keys columns) (scope : Scope) :
    [name] ⊆ [Clause.subquery imports (clauses ++ [.answer columns])].foldl Clause.behind scope := by
  apply Scope.single
  change name ∈ scope ++ Clause.answered (clauses ++ [.answer columns])
  rw [Clause.answered_concat]
  exact List.mem_append_right _ answers

/-- A column that counts leaves one row with a number, however many rows there were. -/
theorem settled_count {σ : Type} (parameters : Entries Value) (db : Database σ)
    (clauses : List Clause) (edge count : String) (start : Flow σ) : ∃ number : Nat, ∃ state,
      (Clause.through db parameters (clauses ++ [.carry [.as (.count (.variable edge)) count]])
        start).settled db parameters [] = { rows := [[(count, .int number)]], state } := by
  rw [Clause.through_append]
  generalize Clause.through db parameters clauses start = flow
  have ready := Flow.waiting_settled db parameters flow []
  cases same : flow.settled db parameters [] with
  | mk rows state waiting =>
      rw [same] at ready
      cases ready
      have carried : Clause.through db parameters [.carry [.as (.count (.variable edge)) count]] flow =
          { rows := Column.project db parameters [.as (.count (.variable edge)) count] rows state
            state } := by
        change (flow.settled db parameters []).mapped
          (Column.project db parameters _ · (flow.settled db parameters []).state) = _
        rw [same]
        rfl
      rw [carried, Column.project_of_all db parameters (by simp)
        (by simp [Column.as, Expression.aggregates])]
      exact ⟨_, state, rfl⟩

/-- What is counted behind whatever is found is reported under its path. -/
theorem Reporting.counted {imports : List String} {path edge count report parameter : String}
    (plain : .union ∉ clauses) (held : parameters.get? parameter = some (.text path)) :
    Reporting parameters ([.subquery imports (clauses ++
      ([.carry [.as (.count (.variable edge)) count]] ++
        [.answer [.as (.report (.parameter parameter) (.variable count)) report]]))], [report])
      [[path]] := by
  rw [← List.append_assoc]
  refine ⟨inScope_subquery (List.mem_singleton_self report), ?_⟩
  intro σ db outer scope flow lawful ready out member
  have whole : .union ∉ clauses ++ [.carry [.as (.count (.variable edge)) count]] := by
    rw [List.mem_append, not_or]
    exact ⟨plain, by simp⟩
  obtain ⟨row, -, start, _, answer, rfl, -, -, rfl, inside⟩ :=
    Clause.mem_run_subquery whole ready member
  obtain ⟨number, state, alone⟩ := settled_count parameters db clauses edge count start
  rw [alone, Column.project_of_none db parameters (by simp [Column.as, Expression.aggregates])] at inside
  refine .cons ⟨[.object [("path", (parameters.get? parameter).getD .null),
    ("matched", .int number)]], ?_, .cons ⟨number, _, rfl, ?_, rfl⟩ .nil⟩ .nil
  · rw [List.mem_singleton.mp inside]
    change Entries.get? ((report, Value.list [.object [("path", (parameters.get? parameter).getD .null),
      ("matched", (Entries.get? [(count, Value.int number)] count).getD .null)]]) :: row) report = _
    rw [Entries.get?_cons, if_pos rfl, Entries.get?_cons, if_pos rfl]
    rfl
  · rw [held]
    rfl

/-- Reports that are joined behind what is nested, whatever is added to its rows in between. -/
theorem Reporting.joined {imports reports : List String} {inner changing : List Clause}
    {columns : List Column} {report : String}
    (nested : Reporting parameters (inner, reports) groups) (keep : KeepRows inner)
    (changes : ExtendRows changing) (single : ∀ column ∈ columns, column.value.aggregates = false)
    (answers : report ∈ Column.keys columns)
    (found : ∀ {σ : Type} (db : Database σ) (state : σ) (row : Row),
      Entries.get? (Column.row db parameters columns state [row] row) report =
        some (row.value db parameters state (concatenation reports))) :
    Reporting parameters ([.subquery imports (inner ++ changing ++ [.answer columns])], [report])
      [groups.flatten] := by
  refine ⟨inScope_subquery answers, ?_⟩
  intro σ db outer scope flow lawful ready out member
  have plain : .union ∉ inner ++ changing := by
    rw [List.mem_append, not_or]
    exact ⟨keep.plain, changes.keep.plain⟩
  obtain ⟨here, -⟩ := Clause.areScoped_append_iff.mp lawful.1.2
  obtain ⟨first, later⟩ := Clause.areScoped_append_iff.mp here
  obtain ⟨row, -, start, _, answer, rfl, -, begun, rfl, inside⟩ :=
    Clause.mem_run_subquery plain ready member
  obtain ⟨-, still⟩ := rows_through db parameters keep begun
  obtain ⟨done, comes⟩ := @Clause.through_keeps _ _ _ _ db parameters later changes.1 _ still
  rw [Clause.through_append, Flow.settled_of_none db parameters done,
    Column.project_of_none db parameters single] at inside
  obtain ⟨last, among, rfl⟩ := List.mem_map.mp inside
  obtain ⟨before, between, keeps⟩ := comes last among
  have all := all_of_keeps keeps (nested.holds db _ _ start first begun before between)
    (nested.inScope _)
  obtain ⟨items, whole, reported⟩ := @value_concatenation _ db parameters _ _ _ all
    (Clause.through db parameters changing (Clause.through db parameters inner start)).state
  refine .cons ⟨items, ?_, reported⟩ .nil
  rw [Entries.get?_append, found, whole]
  rfl

end

theorem emitReport_holds (path edge count report : String) :
    Ensures (emitReport path edge count report) fun clauses parameters => ∃ parameter,
      parameters.get? parameter = some (.text path) ∧
      clauses = [.carry [.as (.count (.variable edge)) count]] ++
        [.answer [.as (.report (.parameter parameter) (.variable count)) report]] := by
  refine .bind (.bindValue _ _) fun name => .pure fun _ held => ?_
  obtain ⟨parameter, rfl, found⟩ := held
  exact ⟨parameter, found, rfl⟩

theorem emitRelationship_ensures (features : Features) (source : String) (step : Step)
    (target : String) (properties : List Assignment) :
    Ensures (emitRelationship features source step target properties) fun answer _ =>
      ExtendRows answer.1 := by
  refine Ensures.imp (.spanning (emitRelationship_performs features source step target properties)
    (emitRelationship_extends features source step target properties)) ?_
  exact fun _ _ both => both.1

mutual

theorem emitNode_reports (features : Features) (name : String) (kept : List String) :
    (node : NodePlan) → Ensures (emitNode features name kept node) fun answer parameters =>
      ∃ groups, groups.flatten = node.paths ∧ Reporting parameters answer groups
  | .mk label identifier id properties entries => by
      refine .bind (emitIdentifier_ensures id) fun expression => ?_
      refine .bind (emitAssignments_ensures name properties) fun assignments => ?_
      refine .bind (emitEntries_reports features name entries) fun nested => ?_
      refine .pure fun parameters reports _ _ => ?_
      refine ⟨entries.map EntryPlan.paths, EntryPlan.flatten_paths entries,
        fun scope => reports.inScope _, ?_⟩
      intro σ db outer scope flow lawful ready out member
      obtain ⟨-, later⟩ := Clause.areScoped_append_iff.mp lawful
      rw [Clause.through_append] at member
      have keep : KeepRows [.create (.node { name, label := some label }),
          .set ((.property name identifier, expression) :: assignments),
          .carry ((kept ++ [name]).map Column.kept)] :=
        .cons (.inr rfl) (.cons (.inr rfl) (.cons (.inl (projects_kept _)) .nil))
      exact reports.holds db outer _ _ later (rows_through db parameters keep ready).2 out member

theorem emitEntry_reports (features : Features) (source : String) : (entry : EntryPlan) →
    Ensures (emitEntry features source entry) fun answer parameters =>
      Reporting parameters ([answer.1], [answer.2]) [entry.paths]
  | .create step properties node => by
      refine .bind (.newName "create") fun target => .bind (.newName "matches") fun report => ?_
      refine .bind (.spanning (emitNode_reports features target [source] node)
        (emitNode_keeping features target [source] node)) fun made => ?_
      refine .bind (emitRelationship_ensures features source step target properties) fun related => ?_
      refine .pure fun parameters relates ⟨keeping, groups, same, reports⟩ _ _ => ?_
      rw [EntryPlan.paths, ← same]
      refine reports.joined keeping.1 relates ?_ (List.mem_singleton_self report) fun db state row => ?_
      · simp [Column.as, aggregates_concatenation]
      · exact (Entries.get?_cons _ _ _ _).trans (if_pos rfl)
  | .connect step path filter properties => by
      refine .bind (.newName "connect") fun target => .bind (.newName "count") fun count => ?_
      refine .bind (.newName "matches") fun report => ?_
      refine .bind (emitConditions_ensures target filter) fun conditions => ?_
      refine .bind (emitRelationship_ensures features source step target properties) fun related => ?_
      refine .bind (emitReport_holds path related.2 count report) fun reported => ?_
      refine .pure fun parameters ⟨parameter, held, same⟩ relates _ _ _ _ => ?_
      dsimp only
      rw [same, ← List.cons_append]
      refine Reporting.counted ?_ held
      have found := (plain_finding (.node { name := target, label := some step.target }) conditions).1
      rw [← List.cons_append, List.mem_append, not_or]
      exact ⟨found, relates.keep.plain⟩

theorem emitEntries_reports (features : Features) (source : String) : (entries : List EntryPlan) →
    Ensures (emitEntries features source entries) fun answer parameters =>
      Reporting parameters answer (entries.map EntryPlan.paths)
  | [] => .pure fun _ => .nil
  | entry :: rest => by
      refine .bind (.spanning (emitEntry_reports features source entry)
        (emitEntry_extends features source entry)) fun first => ?_
      refine .bind (.spanning (emitEntries_reports features source rest)
        (emitEntries_extends features source rest)) fun others => ?_
      refine .pure fun parameters ⟨extending, later⟩ ⟨keeps, here⟩ => ?_
      exact here.append keeps.keep later extending

end

theorem emitConnectionUpdate_reports (source : String) (update : ConnectionUpdate) :
    Ensures (emitConnectionUpdate source update) fun answer parameters =>
      Reporting parameters ([answer.1], [answer.2]) [[update.path]] := by
  refine .bind (.newName "edge") fun edge => .bind (.newName "node") fun target => ?_
  refine .bind (.newName "count") fun count => .bind (.newName "matches") fun report => ?_
  refine .bind (emitConditions_ensures target update.filter) fun conditions => ?_
  refine .bind (emitAssignments_ensures edge update.properties) fun assignments => ?_
  refine .bind (emitReport_holds update.path edge count report) fun reported => ?_
  refine .pure fun parameters ⟨parameter, held, same⟩ _ _ _ _ _ _ => ?_
  dsimp only
  rw [same, ← List.cons_append]
  refine Reporting.counted ?_ held
  have found := (plain_finding (update.step.pattern source edge target) conditions).1
  rw [← List.cons_append, List.mem_append, not_or]
  exact ⟨found, (extends_setting assignments).keep.plain⟩

theorem emitConnectionUpdates_reports (source : String) (updates : List ConnectionUpdate) :
    Ensures (emitConnectionUpdates source updates) fun answer parameters =>
      Reporting parameters answer (updates.map fun update => [update.path]) := by
  induction updates with
  | nil => exact .pure fun _ => .nil
  | cons update rest ih =>
      refine .bind (.spanning (emitConnectionUpdate_reports source update)
        (emitConnectionUpdate_extends source update)) fun first => ?_
      refine .bind (.spanning ih (emitConnectionUpdates_extends source rest)) fun others => ?_
      refine .pure fun parameters ⟨extending, later⟩ ⟨keeps, here⟩ => ?_
      exact here.append keeps.keep later extending

theorem emitRoots_reports (features : Features) (nodes : List NodePlan) :
    ∀ index, Ensures (emitRoots features index nodes) fun answer parameters =>
      Reporting parameters (answer.1, answer.2.map reportsOf) (nodes.map NodePlan.paths) := by
  induction nodes with
  | nil => exact fun index => .pure fun _ => .nil
  | cons node rest ih =>
      intro index
      refine .bind (.spanning (emitNode_reports features (rootAt index) [] node)
        (emitNode_keeping features (rootAt index) [] node)) fun made => ?_
      refine .bind (.spanning (ih (index + 1)) (emitRoots_extends features rest (index + 1)))
        fun others => ?_
      refine .pure fun parameters ⟨extending, later⟩ ⟨keeping, groups, same, reports⟩ => ?_
      let columns := [Column.kept (rootAt index), Column.as (concatenation made.2)
        (reportsOf (rootAt index))]
      have single : ∀ column ∈ columns, column.value.aggregates = false := by
        simp [columns, Column.as, Column.kept, Expression.aggregates, aggregates_concatenation]
      have root : Reporting parameters ([.subquery [] (made.1 ++ [] ++ [.answer columns])],
          [reportsOf (rootAt index)]) [groups.flatten] := by
        refine reports.joined keeping.1 .nil single ?_ fun db state row => ?_
        · exact List.mem_cons_of_mem _ (List.mem_singleton_self _)
        · refine (Entries.get?_cons _ _ _ _).trans ((if_neg (rootAt_ne_reportsOf index _)).trans ?_)
          exact (Entries.get?_cons _ _ _ _).trans (if_pos rfl)
      have keeps : ExtendRows [.subquery [] (made.1 ++ [.answer columns])] := by
        refine extends_keeping keeping (List.all_eq_true.mpr fun column member => ?_)
        rw [single column member]
        rfl
      rw [same, List.append_nil] at root
      exact root.append keeps.keep later extending.1

section

variable {σ : Type} {db : Database σ} {parameters : Entries Value}

/-- What columns of single rows make of rows with the same reports under other names. -/
theorem project_holds {columns : List Column} {name : String} {paths : List String}
    (single : ∀ column ∈ columns, column.value.aggregates = false) {rows : List Row} {state : σ}
    (holds : ∀ row ∈ rows, ∃ items,
      Entries.get? (Column.row db parameters columns state [row] row) name = some (.list items) ∧
        List.Forall₂ ReportsPath items paths) :
    ∀ out ∈ Column.project db parameters columns rows state, RowHolds out name paths := by
  intro out member
  rw [Column.project_of_none db parameters single] at member
  obtain ⟨row, inside, rfl⟩ := List.mem_map.mp member
  exact holds row inside

/-- A column among others has its value under its name. -/
theorem get?_column {columns : List Column} {column : Column} {name : String}
    (named : column.key? = some name) (other : name ∉ Column.keys columns) (rest : List Column)
    (state : σ) (group : List Row) (row : Row) :
    Entries.get? (Column.row db parameters (columns ++ column :: rest) state group row) name =
      some (column.value.value db parameters state group row) := by
  have split : Column.row db parameters (columns ++ column :: rest) state group row =
      Column.row db parameters columns state group row ++
        (name, column.value.value db parameters state group row) ::
          Column.row db parameters rest state group row := by
    unfold Column.row
    rw [List.filterMap_append, List.filterMap_cons, named]
    rfl
  have none_ : Entries.get? (Column.row db parameters columns state group row) name = none := by
    rw [← Option.not_isSome_iff_eq_none, Entries.get?_isSome_iff, Column.keys_row]
    exact other
  rw [split, Entries.get?_append, none_, Option.none_or, Entries.get?_cons, if_pos rfl]

theorem get?_kept {columns : List Column} {name : String} (other : name ∉ Column.keys columns)
    (rest : List Column) (state : σ) (group : List Row) (row : Row) :
    Entries.get? (Column.row db parameters (columns ++ Column.kept name :: rest) state group row)
      name = some ((row.get? name).getD .null) :=
  get?_column rfl other rest state group row

/-- Rows with one variable for each group have all the reports once the variables are joined. -/
theorem joined_hold {column : Column} (single : column.value.aggregates = false)
    (other : "matches" ∉ Column.keys [column]) {names : List String} {groups : List (List String)}
    {rows : List Row} {state : σ}
    (holds : ∀ row ∈ rows, List.Forall₂ (RowHolds row) names groups) :
    ∀ out ∈ Column.project db parameters [column, .as (concatenation names) "matches"] rows state,
      RowHolds out "matches" groups.flatten := by
  have alone : ∀ each ∈ [column, .as (concatenation names) "matches"],
      each.value.aggregates = false := by
    simp [Column.as, single, aggregates_concatenation]
  refine project_holds alone fun row inside => ?_
  obtain ⟨items, whole, reports⟩ :=
    @value_concatenation _ db parameters _ _ _ (holds row inside) state
  refine ⟨items, ?_, reports⟩
  rw [← whole]
  exact @get?_column _ db parameters [column] _ "matches" rfl other [] state [row] row

/-- The created nodes are answered each with all the reports. -/
theorem positions_hold {names : List String} {groups : List (List String)} {flow : Flow σ}
    (ready : flow.waiting = none)
    (holds : ∀ row ∈ flow.rows, List.Forall₂ (RowHolds row) (names.map reportsOf) groups) :
    (Clause.through db parameters (positionClauses names) flow).waiting = none ∧
      ∀ out ∈ (Clause.through db parameters (positionClauses names) flow).rows,
        RowHolds out "matches" groups.flatten := by
  obtain ⟨rows, state, waiting⟩ := flow
  cases ready
  refine ⟨rfl, ?_⟩
  have gathered := @joined_hold _ db parameters (.as (.list (names.map .variable)) "created")
    (by simp [Column.as, Expression.aggregates, anyAggregates_variables])
    (show "matches" ∉ ["created"] by decide) _ _ rows state holds
  intro out member
  refine @project_holds _ db parameters [.as (.at (.variable "created") (.variable "position")) rootName,
    .kept "position", .kept "matches"] "matches" groups.flatten
    (by simp [Column.as, Column.kept, Expression.aggregates]) _ _ ?_ out member
  intro row inside
  obtain ⟨before, among, unwound⟩ := List.mem_flatMap.mp inside
  obtain ⟨value, -, rfl⟩ := List.mem_map.mp unwound
  obtain ⟨items, found, reports⟩ := gathered before among
  refine ⟨items, ?_, reports⟩
  have kept : (before.bind "position" value).get? "matches" = some (.list items) := by
    rw [(before.adds_bind "position" value).get?_eq (by decide)]
    exact found
  have other : "matches" ∉ Column.keys
      [.as (.at (.variable "created") (.variable "position")) rootName, .kept "position"] :=
    show "matches" ∉ [rootName, "position"] by decide
  refine (get?_kept other [] _ _ _).trans ?_
  rw [kept]
  rfl

end

/-- An answer keeps the reports of its rows. -/
theorem emitAnswer_holds (features : Features) (response : ResponsePlan) (before : List String)
    (other : "matches" ∉ "data" :: before) :
    Spans (emitAnswer features response (before ++ ["matches"])) fun _ _ clauses =>
      ∀ {σ : Type} (db : Database σ) (parameters : Entries Value) (scope : Scope) (flow : Flow σ)
        (paths : List String),
        AreScoped [] scope clauses → "matches" ∈ scope → flow.waiting = none →
          (∀ row ∈ flow.rows, RowHolds row "matches" paths) →
            ∀ out ∈ (Clause.through db parameters clauses flow).rows,
              RowHolds out "matches" paths := by
  refine .bind (emitResponse_addsTo features response) fun nested => .pure fun _ _ _ adds => ?_
  intro σ db parameters scope flow paths lawful bound ready holds out member
  obtain ⟨here, -⟩ := Clause.areScoped_append_iff.mp lawful
  obtain ⟨still, comes⟩ := @Clause.through_keeps _ _ _ _ db parameters here adds.1.1 _ ready
  rw [Clause.through_answer, Flow.settled_of_none db parameters still] at member
  have single : ∀ column ∈ Column.as (.map nested.2) "data" ::
      (before ++ ["matches"]).map Column.kept, column.value.aggregates = false := by
    intro column member
    rcases List.mem_cons.mp member with rfl | member
    · exact adds.2
    · obtain ⟨name, -, rfl⟩ := List.mem_map.mp member
      rfl
  refine project_holds single ?_ out member
  intro row inside
  obtain ⟨first, among, keeps⟩ := comes row inside
  obtain ⟨items, found, reports⟩ := (holds first among).of_keeps keeps bound
  refine ⟨items, ?_, reports⟩
  have names : Column.keys (Column.as (.map nested.2) "data" :: before.map Column.kept) =
      "data" :: before := congrArg ("data" :: ·) (Column.keys_kept before)
  rw [List.map_append, ← List.cons_append]
  refine (get?_kept (names ▸ other) [] _ _ _).trans ?_
  rw [found]
  rfl

/-- Every row of a creation has one report for each path, in their order. -/
theorem emit_create_reports (features : Features) (nodes : List NodePlan) (response : ResponsePlan) :
    Ensures (Plan.emit features (.create nodes response)) fun clauses parameters =>
      AreScoped [] [] clauses → ∀ {σ : Type} (db : Database σ) (state : σ),
        ∀ row ∈ (Clause.through db parameters clauses { rows := [[]], state }).rows,
          RowHolds row "matches" (nodes.flatMap NodePlan.paths) := by
  refine .bind (.spanning (emitRoots_reports features nodes 0) (emitRoots_extends features nodes 0))
    fun roots => ?_
  refine .bind (.spanning (emitAnswer_reads features response ["position", "matches"])
    (emitAnswer_holds features response ["position"] (by decide))) fun answer => ?_
  refine .pure fun parameters ⟨answers, _⟩ ⟨extending, reports⟩ => ?_
  intro lawful σ db state row member
  obtain ⟨first, later⟩ := Clause.areScoped_append_iff.mp lawful
  obtain ⟨here, -⟩ := Clause.areScoped_append_iff.mp first
  rw [Clause.through_append, Clause.through_append] at member
  have begun := rows_through db parameters extending.1.keep
    (show (Cypher.Flow.mk [[]] state none).waiting = none from rfl)
  obtain ⟨still, placed⟩ := positions_hold begun.2 (reports.holds db _ _ _ here rfl)
  refine answers db parameters _ _ _ later ?_ still placed row member
  rw [List.foldl_append]
  exact show "matches" ∈ [rootName, "position", "matches"] by decide

/-- The paths of the entries and of the connections of an update, one after another. -/
theorem flatten_updatePaths (entries : List EntryPlan) (connections : List ConnectionUpdate) :
    (entries.map EntryPlan.paths ++ connections.map fun update => [update.path]).flatten =
      EntryPlan.pathsOf entries ++ connections.map ConnectionUpdate.path := by
  have each : (connections.map fun update => [update.path]).flatten =
      connections.map ConnectionUpdate.path := by
    rw [← List.flatMap_def, List.map_eq_flatMap]
  rw [List.flatten_append, EntryPlan.flatten_paths, each]

/-- Every row of an update has one report for each path, in their order. -/
theorem emit_update_reports (features : Features) (label : String)
    (filter assignments : List Assignment) (entries : List EntryPlan)
    (connections : List ConnectionUpdate) (response : ResponsePlan) :
    Ensures (Plan.emit features (.update label filter assignments entries connections response))
      fun clauses parameters => AreScoped [] [] clauses →
        ∀ {σ : Type} (db : Database σ) (state : σ),
          ∀ row ∈ (Clause.through db parameters clauses { rows := [[]], state }).rows,
            RowHolds row "matches"
              (EntryPlan.pathsOf entries ++ connections.map ConnectionUpdate.path) := by
  refine .bind (emitConditions_ensures rootName filter) fun conditions => ?_
  refine .bind (emitAssignments_ensures rootName assignments) fun assigned => ?_
  refine .bind (.spanning (emitEntries_reports features rootName entries)
    (emitEntries_extends features rootName entries)) fun nested => ?_
  refine .bind (.spanning (emitConnectionUpdates_reports rootName connections)
    (emitConnectionUpdates_extends rootName connections)) fun updates => ?_
  refine .bind (.spanning (emitAnswer_reads features response ["matches"])
    (emitAnswer_holds features response [] (by decide))) fun answer => ?_
  refine .pure fun parameters ⟨answers, _⟩ ⟨updating, later⟩ ⟨entering, first⟩ _ _ => ?_
  intro lawful σ db state row member
  let changes := Clause.setting assigned ++ [.carry [.kept rootName]]
  let joins := [Column.kept rootName, .as (concatenation (nested.2 ++ updates.2)) "matches"]
  have reports := first.append entering.keep later updating
  have split : .find (.node { name := rootName, label := some label }) ::
      (Clause.filtering conditions ++ Clause.setting assigned ++ [.carry [.kept rootName]] ++
        nested.1 ++ updates.1 ++ [.carry joins] ++ answer) =
      rootClauses label conditions ++ (changes ++ ((nested.1 ++ updates.1) ++
        ([.carry joins] ++ answer))) := by
    simp only [rootClauses, changes, List.cons_append, List.append_assoc]
  rw [split] at lawful member
  obtain ⟨-, behind⟩ := Clause.areScoped_append_iff.mp lawful
  obtain ⟨-, behind⟩ := Clause.areScoped_append_iff.mp behind
  obtain ⟨inner, behind⟩ := Clause.areScoped_append_iff.mp behind
  obtain ⟨-, last⟩ := Clause.areScoped_append_iff.mp behind
  rw [Clause.through_append, Clause.through_append, Clause.through_append,
    Clause.through_append, through_rootClauses] at member
  have keep : KeepRows changes :=
    (extends_setting assigned).keep.append (.cons (.inl rfl) .nil)
  obtain ⟨-, begun⟩ := rows_through db parameters keep
    (show (Cypher.Flow.mk ((rootNodes db parameters label conditions state).map fun node =>
      [(rootName, node)]) state none).waiting = none from rfl)
  obtain ⟨-, done⟩ := rows_through db parameters (entering.append updating).keep begun
  generalize Clause.through db parameters changes _ = start at begun done member
  have held := reports.holds db _ _ start inner begun
  generalize Clause.through db parameters (nested.1 ++ updates.1) start = flow at done held member
  obtain ⟨rows, after, waiting⟩ := flow
  cases done
  have joined := @joined_hold _ db parameters (.kept rootName) rfl
    (show "matches" ∉ [rootName] by decide) _ _ rows after held
  rw [flatten_updatePaths] at joined
  refine answers db parameters _ _ _ last ?_ rfl joined row member
  exact show "matches" ∈ [rootName, "matches"] by decide

/-- Every row of a mutation has one report for each path, in their order. -/
theorem emit_reports (features : Features) {plan : Plan} (writes : plan.writes = true) :
    Ensures (plan.emit features) fun clauses parameters => AreScoped [] [] clauses →
      ∀ {σ : Type} (db : Database σ) (state : σ),
        ∀ row ∈ (Clause.through db parameters clauses { rows := [[]], state }).rows,
          RowHolds row "matches" plan.paths := by
  cases plan with
  | list label filter fields => cases writes
  | lookup id variants => cases writes
  | create nodes response => exact emit_create_reports features nodes response
  | update label filter assignments entries connections response =>
      exact emit_update_reports features label filter assignments entries connections response

/-- Every row of a mutation that compiles reports each of its paths once, in their order. -/
theorem plan_reports {basis : Basis} {field : RootField} {plan : Plan}
    (planned : basis.plan field = .ok plan) (writes : plan.writes = true) {σ : Type}
    (db : Database σ) (state : σ) {row : Row}
    (member : row ∈ (Clause.result db (plan.emit basis.features {}).2.parameters
      (plan.emit basis.features {}).1 state).rows) :
    ∃ reports, RowReports (.object row) reports ∧ reports.map Prod.fst = plan.paths := by
  have other : ∀ id variants, plan ≠ .lookup id variants := by
    rintro id variants rfl
    cases writes
  have laid : plan.Laid (plan.emit basis.features {}).1 := (emit_laid basis.features plan).run
  have lawful : AreScoped [] [] (plan.emit basis.features {}).1 :=
    (emit_scoped basis.features (Basis.plan_hasVariant planned)).run
  rw [laid.result_eq db _ other] at member
  exact ((emit_reports basis.features writes).run lawful db state row member).reports

end GraphGateway.Statement
