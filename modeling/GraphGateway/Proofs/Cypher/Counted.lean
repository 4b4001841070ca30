import GraphGateway.Proofs.Cypher.Run
import GraphGateway.Proofs.Entries
import GraphGateway.Proofs.Outcome

/-!
How many rows clauses leave.  Whether exactly one row is left behind clauses can be read off them:
columns that all aggregate leave one row of any number, and what creates, assigns, or calls a subquery
that leaves one row, takes one row to one row.
-/
namespace GraphGateway.Cypher

/-- A row with values for some names in front of another row. -/
def Row.Adds (names : List String) (row out : Row) : Prop :=
  ∃ added : Row, out = added ++ row ∧ Entries.keys added ⊆ names

theorem Row.adds_nil (row : Row) : Row.Adds [] row row := ⟨[], rfl, List.nil_subset _⟩

theorem Row.adds_bind (row : Row) (name : String) (value : Value) :
    Row.Adds (Pattern.named name) row (row.bind name value) := by
  unfold Row.bind Pattern.named
  split
  · exact row.adds_nil
  · exact ⟨[(name, value)], rfl, List.Subset.refl _⟩

/-- Other variables keep their values. -/
theorem Row.Adds.get?_eq {names : List String} {row out : Row} (adds : Row.Adds names row out)
    {name : String} (other : name ∉ names) : out.get? name = row.get? name := by
  obtain ⟨added, rfl, inside⟩ := adds
  have none_ : Entries.get? added name = none := by
    rw [← Option.not_isSome_iff_eq_none, Entries.get?_isSome_iff]
    exact fun member => other (inside member)
  rw [Entries.get?_append, none_, Option.none_or]

section

variable {σ : Type} (db : Database σ) (parameters : Entries Value)

/-- Steps that answer one row each leave as many rows as there were. -/
theorem eachRow_forall₂ {relation : Row → Row → Prop} {step : Row → σ → List Row × σ}
    (one : ∀ row state, ∃ out, (step row state).1 = [out] ∧ relation row out) (rows : List Row)
    (state : σ) : List.Forall₂ relation rows (eachRow step rows state).1 := by
  induction rows generalizing state with
  | nil => exact .nil
  | cons row rest ih =>
      obtain ⟨out, same, related⟩ := one row state
      change List.Forall₂ relation (row :: rest)
        ((step row state).1 ++ (eachRow step rest (step row state).2).1)
      rw [same]
      exact .cons related (ih _)

theorem Flow.settled_of_none {flow : Flow σ} (none_ : flow.waiting = none)
    (conditions : List Expression) : flow.settled db parameters conditions = flow := by
  unfold Flow.settled
  rw [none_]

theorem Flow.waiting_settled (flow : Flow σ) (conditions : List Expression) :
    (flow.settled db parameters conditions).waiting = none := by
  unfold Flow.settled
  split
  · assumption
  · rfl

/-- Columns without an aggregate make a row of each row. -/
theorem Column.project_of_none {columns : List Column}
    (plain : ∀ column ∈ columns, column.value.aggregates = false) (rows : List Row) (state : σ) :
    Column.project db parameters columns rows state =
      rows.map fun row => Column.row db parameters columns state [row] row := by
  have all : columns.filter (fun column => !column.value.aggregates) = columns :=
    List.filter_eq_self.mpr fun column member => by rw [plain column member]; rfl
  unfold Column.project
  simp only [all, if_true]

/-- Columns that all aggregate make one row of all rows. -/
theorem Column.project_of_all {columns : List Column} (some_ : columns ≠ [])
    (gathers : ∀ column ∈ columns, column.value.aggregates = true) (rows : List Row) (state : σ) :
    Column.project db parameters columns rows state =
      [Column.row db parameters columns state rows (rows.headD [])] := by
  have none_ : columns.filter (fun column => !column.value.aggregates) = [] :=
    List.filter_eq_nil_iff.mpr fun column member => by rw [gathers column member]; decide
  have apart : ¬ ([] : List Column).length = columns.length := fun same =>
    some_ (List.eq_nil_of_length_eq_zero same.symm)
  unfold Column.project
  simp only [none_]
  rw [if_neg apart, if_pos (by rfl)]

theorem Column.keys_row (columns : List Column) (state : σ) (group : List Row) (row : Row) :
    Entries.keys (Column.row db parameters columns state group row) = Column.keys columns := by
  unfold Entries.keys Column.row Column.keys
  rw [List.map_filterMap]
  congr 1
  funext column
  rw [Option.map_map]
  exact Option.map_id'

/-- Each row that columns make has a value under the name of every column. -/
theorem Column.keys_of_mem_project {columns : List Column} {rows : List Row} {state : σ} {out : Row}
    (member : out ∈ Column.project db parameters columns rows state) :
    Entries.keys out = Column.keys columns := by
  unfold Column.project at member
  dsimp only at member
  split at member
  · obtain ⟨row, -, rfl⟩ := List.mem_map.mp member
    exact Column.keys_row ..
  · split at member
    · rw [List.mem_singleton.mp member]
      exact Column.keys_row ..
    · obtain ⟨group, -, rfl⟩ := List.mem_map.mp member
      exact Column.keys_row ..

namespace Clause

/-- Whether a clause leaves one row of any number of rows. -/
def gathersRows : Clause → Bool
  | .carry columns => !columns.isEmpty && columns.all (·.value.aggregates)
  | .answer columns => !columns.isEmpty && columns.all (·.value.aggregates)
  | _ => false

/-- Whether a clause makes a row of columns of each row. -/
def projectsRows : Clause → Bool
  | .carry columns => columns.all fun column => !column.value.aggregates
  | .answer columns => columns.all fun column => !column.value.aggregates
  | _ => false

/-- Whether clauses end with an answer. -/
def endsInAnswer (clauses : List Clause) : Bool :=
  match clauses.getLast? with
  | some (.answer _) => true
  | _ => false

mutual

/-- Whether a clause only adds to each row. -/
def extendsRows : Clause → Bool
  | .create _ => true
  | .merge _ _ _ => true
  | .set _ => true
  | .setOnCreate _ _ => true
  | .subquery _ body => leavesOne true body && endsInAnswer body
  | _ => false

/-- Whether one row is left behind clauses that start from one row, or from any rows. -/
def leavesOne (one : Bool) : List Clause → Bool
  | [] => one
  | .union :: _ => false
  | clause :: rest =>
      leavesOne (clause.gathersRows || one && (clause.projectsRows || clause.extendsRows)) rest

end

/-- The names that a clause adds to a row. -/
def added : Clause → List String
  | .create pattern => pattern.made
  | .merge counter _ _ => [counter]
  | .subquery _ body => answered body
  | _ => []

/-- The flow behind clauses that have no union among them. -/
def through (clauses : List Clause) (flow : Flow σ) : Flow σ :=
  clauses.foldl (fun flow clause => clause.run db parameters flow) flow

variable {db parameters}

theorem runAll_cons {clause : Clause} (plain : clause ≠ .union) (start : List Row)
    (rest : List Clause) (flow : Flow σ) :
    runAll db parameters start (clause :: rest) flow =
      runAll db parameters start rest (clause.run db parameters flow) := by
  cases clause with
  | union => exact absurd rfl plain
  | _ => rfl

/-- Without a union, clauses run one part after another. -/
theorem runAll_append {clauses : List Clause} (plain : .union ∉ clauses) (start : List Row)
    (rest : List Clause) (flow : Flow σ) :
    runAll db parameters start (clauses ++ rest) flow =
      runAll db parameters start rest (through db parameters clauses flow) := by
  induction clauses generalizing flow with
  | nil => rfl
  | cons clause others ih =>
      have first : clause ≠ .union := fun same => plain (same ▸ List.mem_cons_self ..)
      rw [List.cons_append, runAll_cons first, ih fun member => plain (List.mem_cons_of_mem _ member)]
      rfl

theorem runAll_eq {clauses : List Clause} (plain : .union ∉ clauses) (start : List Row)
    (flow : Flow σ) :
    runAll db parameters start clauses flow =
      (through db parameters clauses flow).settled db parameters [] := by
  have parted : runAll db parameters start (clauses ++ []) flow =
      runAll db parameters start [] (through db parameters clauses flow) :=
    runAll_append plain start [] flow
  rw [List.append_nil] at parted
  exact parted

theorem through_append (clauses rest : List Clause) (flow : Flow σ) :
    through db parameters (clauses ++ rest) flow =
      through db parameters rest (through db parameters clauses flow) := List.foldl_append

/-- What ends with an answer leaves rows of the columns that it answers. -/
theorem through_answer (clauses : List Clause) (columns : List Column) (flow : Flow σ) :
    through db parameters (clauses ++ [.answer columns]) flow =
      let before := (through db parameters clauses flow).settled db parameters []
      before.mapped (Column.project db parameters columns · before.state) := by
  rw [through_append]
  rfl

theorem leavesOne_cons {clause : Clause} (plain : clause ≠ .union) (one : Bool)
    (rest : List Clause) :
    leavesOne one (clause :: rest) =
      leavesOne (clause.gathersRows || one && (clause.projectsRows || clause.extendsRows)) rest := by
  cases clause with
  | union => exact absurd rfl plain
  | _ => rfl

theorem union_not_mem_of_leavesOne {clauses : List Clause} {one : Bool}
    (leaves : leavesOne one clauses = true) : .union ∉ clauses := by
  induction clauses generalizing one with
  | nil => exact List.not_mem_nil
  | cons clause rest ih =>
      have plain : clause ≠ .union := by
        rintro rfl
        cases leaves
      rw [leavesOne_cons plain] at leaves
      intro member
      rcases List.mem_cons.mp member with here | later
      · exact plain here.symm
      · exact ih leaves later

/-- A clause that gathers leaves one row. -/
theorem run_gathers {clause : Clause} (gathers : clause.gathersRows = true) (flow : Flow σ) :
    (clause.run db parameters flow).rows.length = 1 ∧
      (clause.run db parameters flow).waiting = none := by
  have columns_one : ∀ columns : List Column,
      (!columns.isEmpty && columns.all (·.value.aggregates)) = true → ∀ rows state,
        (Column.project db parameters columns rows state).length = 1 := by
    intro columns all rows state
    rw [Bool.and_eq_true, Bool.not_eq_true', List.isEmpty_eq_false_iff, List.all_eq_true] at all
    rw [Column.project_of_all db parameters all.1 all.2]
    rfl
  cases clause with
  | carry columns => exact ⟨columns_one columns gathers _ _, Flow.waiting_settled ..⟩
  | answer columns => exact ⟨columns_one columns gathers _ _, Flow.waiting_settled ..⟩
  | _ => cases gathers

/-- A clause that projects leaves as many rows as there were. -/
theorem run_projects {clause : Clause} (projects : clause.projectsRows = true) {flow : Flow σ}
    (ready : flow.waiting = none) :
    (clause.run db parameters flow).rows.length = flow.rows.length ∧
      (clause.run db parameters flow).waiting = none := by
  have columns_keep : ∀ columns : List Column,
      (columns.all fun column => !column.value.aggregates) = true → ∀ rows state,
        (Column.project db parameters columns rows state).length = rows.length := by
    intro columns all rows state
    rw [List.all_eq_true] at all
    rw [Column.project_of_none db parameters fun column member => by simpa using all column member]
    exact List.length_map _
  cases clause with
  | carry columns =>
      rw [run, Flow.settled_of_none db parameters ready]
      exact ⟨columns_keep columns projects _ _, ready⟩
  | answer columns =>
      rw [run, Flow.settled_of_none db parameters ready]
      exact ⟨columns_keep columns projects _ _, ready⟩
  | _ => cases projects

/-- The rows of what ends with an answer have no other names than those of its columns. -/
theorem keys_of_mem_runAll {body : List Clause} (ends : endsInAnswer body = true)
    (plain : .union ∉ body) {start : List Row} {flow : Flow σ} {row : Row}
    (member : row ∈ (runAll db parameters start body flow).rows) :
    Entries.keys row = answered body := by
  obtain ⟨before, columns, rfl⟩ : ∃ before columns, body = before ++ [.answer columns] := by
    unfold endsInAnswer at ends
    split at ends
    · next columns last =>
        obtain ⟨before, same⟩ := List.getLast?_eq_some_iff.mp last
        exact ⟨before, columns, same⟩
    · cases ends
  rw [runAll_eq plain, through_answer, Flow.settled_of_none] at member
  · rw [answered_concat]
    exact Column.keys_of_mem_project db parameters member
  · exact Flow.waiting_settled ..

mutual

/-- A clause that extends rows adds values for its names to each row, and does nothing else to it. -/
theorem run_extends : (clause : Clause) → clause.extendsRows = true → ∀ {flow : Flow σ},
    flow.waiting = none →
      List.Forall₂ (Row.Adds clause.added) flow.rows (clause.run db parameters flow).rows ∧
        (clause.run db parameters flow).waiting = none
  | .create pattern, _, flow, ready => by
      rw [run, Flow.settled_of_none db parameters ready]
      refine ⟨eachRow_forall₂ (fun row state => ⟨_, rfl, ?_⟩) _ _, ready⟩
      cases pattern with
      | node pattern => exact row.adds_bind pattern.name _
      | relationship pattern => exact row.adds_bind pattern.name _
  | .merge counter label name, _, flow, ready => by
      rw [run, Flow.settled_of_none db parameters ready]
      refine ⟨eachRow_forall₂ (fun row state => ⟨_, rfl, ?_⟩) _ _, ready⟩
      obtain ⟨added, same, inside⟩ := row.adds_bind counter (db.counter label _ state).1
      refine ⟨added, same, List.Subset.trans inside ?_⟩
      unfold Pattern.named
      split
      · exact List.nil_subset _
      · exact List.Subset.refl _
  | .set assignments, _, flow, ready => by
      rw [run, Flow.settled_of_none db parameters ready]
      exact ⟨eachRow_forall₂ (fun row state => ⟨row, rfl, row.adds_nil⟩) _ _, ready⟩
  | .setOnCreate target value, _, flow, ready => by
      rw [run, Flow.settled_of_none db parameters ready]
      exact ⟨eachRow_forall₂ (fun row state => ⟨row, rfl, row.adds_nil⟩) _ _, ready⟩
  | .subquery imports body, extending, flow, ready => by
      rw [extendsRows, Bool.and_eq_true] at extending
      obtain ⟨leaves, ends⟩ := extending
      rw [run, Flow.settled_of_none db parameters ready]
      refine ⟨eachRow_forall₂ (fun row state => ?_) _ _, ready⟩
      have single := runAll_one body true leaves
        { rows := [row.imported imports], state } (fun _ => ⟨rfl, rfl⟩) [row.imported imports]
      obtain ⟨answer, alone⟩ := List.length_eq_one_iff.mp single
      refine ⟨answer ++ row, ?_, answer, rfl, ?_⟩
      · change List.map _ _ = _
        rw [alone]
        rfl
      · have member : answer ∈ (runAll db parameters [row.imported imports] body
            { rows := [row.imported imports], state }).rows := by
          rw [alone]
          exact List.mem_singleton_self _
        rw [keys_of_mem_runAll ends (union_not_mem_of_leavesOne leaves) member]
        exact List.Subset.refl _

/-- Clauses of which it can be read off that they leave one row do so. -/
theorem runAll_one : (clauses : List Clause) → (one : Bool) → leavesOne one clauses = true →
    ∀ flow : Flow σ, (one = true → flow.rows.length = 1 ∧ flow.waiting = none) →
      ∀ start, (runAll db parameters start clauses flow).rows.length = 1
  | [], one, leaves, flow, single, start => by
      obtain ⟨length, ready⟩ := single leaves
      rw [runAll, Flow.settled_of_none db parameters ready]
      exact length
  | clause :: rest, one, leaves, flow, single, start => by
      have plain : clause ≠ .union := by
        rintro rfl
        cases leaves
      rw [leavesOne_cons plain] at leaves
      rw [runAll_cons plain]
      refine runAll_one rest _ leaves _ (fun known => ?_) start
      rcases Bool.or_eq_true _ _ ▸ known with gathers | keeps
      · exact run_gathers gathers flow
      · rw [Bool.and_eq_true, Bool.or_eq_true] at keeps
        obtain ⟨length, ready⟩ := single keeps.1
        rcases keeps.2 with projects | extending
        · have kept : (clause.run db parameters flow).rows.length = flow.rows.length ∧
              (clause.run db parameters flow).waiting = none := run_projects projects ready
          exact ⟨kept.1.trans length, kept.2⟩
        · have kept := run_extends clause extending ready
          exact ⟨kept.1.length_eq.symm.trans length, kept.2⟩

end

end Clause

end

end GraphGateway.Cypher

/-!
What clauses leave alone.  Where the rules of scopes are kept, clauses that only add to rows add no
name that is in scope, so that the variables in scope keep their values.
-/
namespace GraphGateway.Cypher

/-- The names in a scope keep their values. -/
def Row.Keeps (scope : Scope) (row out : Row) : Prop :=
  ∀ name ∈ scope, out.get? name = row.get? name

theorem Row.Keeps.trans {scope others : Scope} {row middle out : Row}
    (first : Row.Keeps scope row middle) (rest : Row.Keeps others middle out) (fewer : scope ⊆ others) :
    Row.Keeps scope row out :=
  fun name member => (rest name (fewer member)).trans (first name member)

namespace Clause

variable {outer scope : Scope} {clause : Clause} {clauses rest : List Clause}

theorem areScoped_append_iff :
    AreScoped outer scope (clauses ++ rest) ↔
      AreScoped outer scope clauses ∧ AreScoped outer (clauses.foldl behind scope) rest := by
  induction clauses generalizing scope with
  | nil =>
      rw [List.nil_append, AreScoped, true_and]
      rfl
  | cons clause others ih =>
      rw [List.cons_append, AreScoped, AreScoped, ih, and_assoc]
      rfl

/-- What a scoped body answers is new around it. -/
theorem answered_new (lawful : AreScoped outer scope clauses) (name : String)
    (member : name ∈ answered clauses) : name ∉ outer := by
  unfold answered at member
  split at member
  · next columns last =>
      obtain ⟨before, rfl⟩ := List.getLast?_eq_some_iff.mp last
      exact (areScoped_append_iff.mp lawful).2.1.2 name member
  · cases member

/-- A scoped clause that extends rows adds no name in scope. -/
theorem added_new (lawful : clause.IsScoped outer scope) (extending : clause.extendsRows = true) :
    ∀ name ∈ scope, name ∉ clause.added := by
  have lacking : ∀ names, scope.Lacks names → ∀ name ∈ scope, name ∉ names :=
    fun names lacks name member inside => lacks.2 name inside member
  cases clause with
  | create pattern => exact lacking _ lawful.2
  | merge counter label name => exact lacking _ lawful.2
  | set assignments => exact fun _ _ => List.not_mem_nil
  | setOnCreate target value => exact fun _ _ => List.not_mem_nil
  | subquery imports body => exact fun name member inside => answered_new lawful.2 name inside member
  | _ => cases extending

/-- What extends rows keeps names in scope. -/
theorem subset_behind (extending : clause.extendsRows = true) (scope : Scope) :
    scope ⊆ behind scope clause := by
  cases clause with
  | create pattern => exact List.subset_append_left _ _
  | merge counter label name => exact List.subset_append_left _ _
  | set assignments => exact List.Subset.refl _
  | setOnCreate target value => exact List.Subset.refl _
  | subquery imports body => exact List.subset_append_left _ _
  | _ => cases extending

theorem subset_foldl_behind (extending : ∀ clause ∈ clauses, clause.extendsRows = true)
    (scope : Scope) : scope ⊆ clauses.foldl behind scope := by
  induction clauses generalizing scope with
  | nil => exact List.Subset.refl _
  | cons clause rest ih =>
      have later := ih fun other member => extending other (List.mem_cons_of_mem _ member)
      exact List.Subset.trans (subset_behind (extending _ (List.mem_cons_self ..)) scope) (later _)

section

variable {σ : Type} {db : Database σ} {parameters : Entries Value}

/-- Behind scoped clauses that extend rows every row comes from a row before them, and its variables
in scope have the values that they had. -/
theorem through_keeps (lawful : AreScoped outer scope clauses)
    (extending : ∀ clause ∈ clauses, clause.extendsRows = true) {flow : Flow σ}
    (ready : flow.waiting = none) :
    (through db parameters clauses flow).waiting = none ∧
      ∀ out ∈ (through db parameters clauses flow).rows, ∃ row ∈ flow.rows, Row.Keeps scope row out := by
  induction clauses generalizing scope flow with
  | nil => exact ⟨ready, fun out member => ⟨out, member, fun _ _ => rfl⟩⟩
  | cons clause rest ih =>
      have here := extending clause (List.mem_cons_self ..)
      obtain ⟨adds, still⟩ := @run_extends _ db parameters clause here _ ready
      obtain ⟨done, later⟩ := ih lawful.2
        (fun other member => extending other (List.mem_cons_of_mem _ member)) still
      refine ⟨done, fun out member => ?_⟩
      obtain ⟨middle, between, keeps⟩ := later out member
      obtain ⟨row, before, added⟩ := Outcome.partner_of_mem_others adds between
      refine ⟨row, before, Row.Keeps.trans (fun name inside => ?_) keeps (subset_behind here scope)⟩
      exact added.get?_eq (added_new lawful.1 here name inside)

/-- The rows of a subquery that answers columns are these columns in front of rows. -/
theorem mem_run_subquery {imports : List String} {body : List Clause} {columns : List Column}
    (plain : .union ∉ body) {flow : Flow σ} (ready : flow.waiting = none) {out : Row}
    (member : out ∈ (run db parameters (.subquery imports (body ++ [.answer columns])) flow).rows) :
    ∃ row ∈ flow.rows, ∃ start before : Flow σ, ∃ answer, out = answer ++ row ∧
      start.rows = [row.imported imports] ∧ start.waiting = none ∧
      before = (through db parameters body start).settled db parameters [] ∧
      answer ∈ Column.project db parameters columns before.rows before.state := by
  rw [run, Flow.settled_of_none db parameters ready] at member
  change out ∈ (eachRow _ flow.rows flow.state).1 at member
  obtain ⟨rows, state, waiting⟩ := flow
  dsimp only at member ⊢
  clear ready
  induction rows generalizing state with
  | nil => cases member
  | cons row rest ih =>
      rcases List.mem_append.mp member with here | later
      · obtain ⟨answer, inside, rfl⟩ := List.mem_map.mp here
        have whole : .union ∉ body ++ [.answer columns] := by
          rw [List.mem_append, not_or]
          exact ⟨plain, by simp⟩
        refine ⟨row, List.mem_cons_self .., { rows := [row.imported imports], state }, _, answer,
          rfl, rfl, rfl, rfl, ?_⟩
        rw [runAll_eq whole, through_answer, Flow.settled_of_none] at inside
        · exact inside
        · exact Flow.waiting_settled ..
      · obtain ⟨other, among, found⟩ := ih _ later
        exact ⟨other, List.mem_cons_of_mem _ among, found⟩

end

end Clause

end GraphGateway.Cypher
