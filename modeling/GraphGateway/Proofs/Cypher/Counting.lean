import GraphGateway.Proofs.Cypher.Ledger
import GraphGateway.Proofs.Cypher.Paired
import GraphGateway.Proofs.Cypher.Memory

/-!
Runs of paired clauses.  A draw counts its counter on by one and answers the new number, whatever row
it is made for.  So the rows of a creation have the next numbers, in the order of the rows, and each of
the new relationships gets the number of its row.  All other clauses leave the counters alone.
-/
namespace GraphGateway.Cypher

open Event (AreStores FirstStored Numbers)
open Naming (Holds)
open Settings (Features)

section

variable {σ : Type} {db : Database σ} {parameters : Entries Value}

theorem Row.get?_bind {row : Row} {name : String} (some_ : name ≠ "") (value : Value) :
    Entries.get? (row.bind name value) name = some value := by
  unfold Row.bind
  rw [if_neg some_, Entries.get?_cons, if_pos rfl]

theorem Row.get?_bind_of_ne {row : Row} {name other : String} (apart : name ≠ other) (value : Value) :
    Entries.get? (row.bind name value) other = row.get? other := by
  unfold Row.bind
  split
  · rfl
  · rw [Entries.get?_cons, if_neg apart]

theorem Database.read_eq {row : Row} {owner : String} {entity : Value}
    (found : row.get? owner = some entity) (some_ : entity ≠ .null) (key : String) (state : σ) :
    db.read row owner key state = db.property entity key state := by
  unfold Database.read
  rw [found]
  cases entity with
  | null => exact absurd rfl some_
  | _ => rfl

/-- Assignments go on behind what the first of them stores. -/
theorem Row.assigned_cons {row : Row} {owner : String} {entity : Value}
    (found : row.get? owner = some entity) (some_ : entity ≠ .null) (key : String)
    (value : Expression) (rest : List (Expression × Expression)) (state : σ) :
    row.assigned db parameters ((.property owner key, value) :: rest) state =
      row.assigned db parameters rest
        (db.store entity key (row.value db parameters state value) state) := by
  rw [← List.singleton_append, Row.assigned_append, Row.assigned_property found some_]

theorem Row.assigned_counted {row : Row} {counter : String} {entity : Value}
    (found : row.get? counter = some entity) (some_ : entity ≠ .null) (value : Expression)
    (state : σ) :
    row.assigned db parameters [(.counted counter, value)] state =
      db.store entity countedKey (row.value db parameters state value) state :=
  Row.assigned_property found some_ countedKey value state

variable (db parameters) in
theorem Flow.state_settled (flow : Flow σ) (conditions : List Expression) :
    (flow.settled db parameters conditions).state = flow.state := by
  unfold Flow.settled
  split <;> rfl

theorem Flow.each_eq {flow : Flow σ} (ready : flow.waiting = none) {step : Row → σ → List Row × σ}
    {rows : List Row} {state : σ} (same : eachRow step flow.rows flow.state = (rows, state)) :
    flow.each step = { rows, state } := by
  obtain ⟨before, start, waiting⟩ := flow
  cases ready
  unfold Flow.each
  rw [same]

theorem eachRow_cons (step : Row → σ → List Row × σ) (row : Row) (rest : List Row) (state : σ) :
    eachRow step (row :: rest) state =
      ((step row state).1 ++ (eachRow step rest (step row state).2).1,
        (eachRow step rest (step row state).2).2) := rfl

/-- Steps that leave the state as it is leave it so over all rows. -/
theorem eachRow_state {step : Row → σ → List Row × σ} (same : ∀ row state, (step row state).2 = state)
    (rows : List Row) (state : σ) : (eachRow step rows state).2 = state := by
  induction rows with
  | nil => rfl
  | cons row rest ih =>
      rw [eachRow_cons, same, ih]

namespace Clause

mutual

/-- What reads leaves the database as it is. -/
theorem state_run_of_reads : (clause : Clause) → clause.reads = true → ∀ flow : Flow σ,
    (clause.run db parameters flow).state = flow.state
  | .find _, _, flow => Flow.state_settled db parameters flow []
  | .findOptional _, _, flow => Flow.state_settled db parameters flow []
  | .filter conditions, _, flow => by
      rw [run]
      unfold Flow.filtered
      split
      · rfl
      · exact Flow.state_settled db parameters flow conditions
  | .carry _, _, flow => Flow.state_settled db parameters flow []
  | .order _, _, flow => Flow.state_settled db parameters flow []
  | .limit count, _, flow => by
      rw [run]
      split <;> exact Flow.state_settled db parameters flow []
  | .unwind _ _, _, flow => Flow.state_settled db parameters flow []
  | .answer _, _, flow => Flow.state_settled db parameters flow []
  | .union, _, flow => Flow.state_settled db parameters flow []
  | .subquery imports body, reading, flow => by
      rw [run]
      refine (eachRow_state (fun row state => ?_) _ _).trans (Flow.state_settled db parameters flow [])
      exact state_runAll_of_reads body reading _ _

theorem state_runAll_of_reads : (clauses : List Clause) → readsAll clauses = true →
    ∀ (start : List Row) (flow : Flow σ),
      (runAll db parameters start clauses flow).state = flow.state
  | [], _, _, flow => Flow.state_settled db parameters flow []
  | clause :: rest, reading, start, flow => by
      rw [readsAll, Bool.and_eq_true] at reading
      by_cases plain : clause = .union
      · subst plain
        exact (state_runAll_of_reads rest reading.2 _ _).trans
          (Flow.state_settled db parameters flow [])
      · rw [runAll_cons plain]
        exact (state_runAll_of_reads rest reading.2 _ _).trans
          (state_run_of_reads clause reading.1 flow)

end

theorem union_not_mem_found (pattern : Pattern) (conditions : List Expression)
    (assignments : List (Expression × Expression)) :
    .union ∉ find pattern :: (filtering conditions ++ setting assignments) := by
  unfold filtering setting
  split <;> split <;> simp

/-- Conditions keep some of the rows. -/
theorem through_filtering (conditions : List Expression) {flow : Flow σ}
    (ready : flow.waiting = none) :
    ∃ rows, through db parameters (filtering conditions) flow = { rows, state := flow.state } ∧
      ∀ row ∈ rows, row ∈ flow.rows := by
  obtain ⟨rows, state, waiting⟩ := flow
  cases ready
  unfold filtering
  split
  · exact ⟨rows, rfl, fun _ => id⟩
  · exact ⟨_, rfl, fun row member => List.mem_of_mem_filter member⟩

theorem state_through_setting (assignments : List (Expression × Expression)) {flow : Flow σ}
    (ready : flow.waiting = none) :
    (through db parameters (setting assignments) flow).state =
      (eachRow (fun row state => ([row], row.assigned db parameters assignments state)) flow.rows
        flow.state).2 := by
  obtain ⟨rows, state, waiting⟩ := flow
  cases ready
  unfold setting
  split
  · next none_ =>
    rw [List.isEmpty_iff.mp none_]
    exact (eachRow_state (fun _ _ => rfl) rows state).symm
  · rfl

variable (db parameters) in
/-- The steps of a draw, one after another. -/
theorem runFrom_drawing (features : Features) {counter : String} (counting : counter ≠ "")
    (drawn : String) (name : Expression) (state : σ) :
    runFrom db parameters (drawing features counter drawn name) [] state =
      let asked := db.counter features.sequenceLabel (Row.value db parameters state [] name) state
      let row : Row := [(counter, asked.1)]
      let begun :=
        if db.isNew asked.1 asked.2 then
          row.assigned db parameters [(.counted counter, .number 0)] asked.2
        else asked.2
      let after :=
        row.assigned db parameters [(.counted counter, .plus (.counted counter) (.number 1))] begun
      { rows := [[(drawn, db.read row counter countedKey after)]], state := after } := by
  have bound : ∀ value, Row.bind [] counter value = [(counter, value)] := fun value => if_neg counting
  have found : ∀ value : Value, Entries.get? [(counter, value)] counter = some value := fun value => by
    rw [Entries.get?_cons, if_pos rfl]
  simp [runFrom, drawing, runAll, run, Flow.settled, Flow.each, eachRow, bound, found,
    Expression.variables, Expression.value, Expression.aggregates, Flow.mapped, Column.project,
    Column.as, Column.row, Column.key?]

end Clause

end

namespace Database.Ledger

section

variable {σ : Type} {db : Database σ} {parameters : Entries Value} {features : Features}
  (ledger : db.Ledger features.sequenceLabel)

include ledger

/-- A counter that is asked for is as far as it was, once a new one is set to zero. -/
theorem begun (type : String) (state : σ) :
    let asked := db.counter features.sequenceLabel (.text type) state
    let begun :=
      if db.isNew asked.1 asked.2 then db.store asked.1 countedKey (.int 0) asked.2 else asked.2
    ∃ events, ledger.Leaves db (some type) events state begun ∧ AreStores events ∧
      ledger.counter? type begun = some asked.1 ∧
      ∀ number, ledger.Counts db type number state →
        db.property asked.1 countedKey begun = .int number := by
  obtain ⟨merged, found, former⟩ := ledger.merge type state
  intro asked begun
  cases known : ledger.counter? type state with
  | none =>
      rw [known] at former
      obtain ⟨set, still, counted⟩ := ledger.count (.int 0) found
      have same : begun = db.store asked.1 countedKey (.int 0) asked.2 := if_pos former
      rw [same]
      refine ⟨_, merged.trans set, Event.areStores_singleton _ _ _, still, fun number counts => ?_⟩
      unfold View.Counts at counts
      rw [known] at counts
      rw [counted, show number = 0 from counts]
  | some counter =>
      rw [known] at former
      obtain ⟨old, here, kept⟩ := former
      have same : begun = asked.2 := if_neg (by rw [old]; decide)
      have here : asked.1 = counter := here
      rw [same]
      refine ⟨[], merged, fun _ member => (nomatch member), found, fun number counts => ?_⟩
      unfold View.Counts at counts
      rw [known] at counts
      rw [here]
      exact kept.trans counts

/-- A draw counts on by one and answers how far the counter is then. -/
theorem drawn {counter drawn type : String} {name : Expression} (counting : counter ≠ "")
    (held : Holds (.text type) name parameters) (state : σ) :
    ∃ value after events,
      Clause.runFrom db parameters (Clause.drawing features counter drawn name) [] state =
        { rows := [[(drawn, value)]], state := after } ∧
      ledger.Leaves db (some type) events state after ∧ AreStores events ∧
      ∀ number, ledger.Counts db type number state →
        value = .int (number + 1) ∧ ledger.Counts db type (number + 1) after := by
  have named : Row.value db parameters state [] name = .text type := by
    obtain ⟨parameter, rfl, bound⟩ := held
    change (parameters.get? parameter).getD .null = .text type
    rw [bound]
    rfl
  obtain ⟨events, leaves, stores, found, counted⟩ := ledger.begun type state
  have some_ := ledger.counter_some found
  have whole := Clause.runFrom_drawing db parameters features counting drawn name state
  rw [named] at whole
  generalize db.counter features.sequenceLabel (.text type) state = asked
    at leaves found counted some_ whole
  obtain ⟨entity, next⟩ := asked
  dsimp only at leaves found counted some_ whole
  have here : Entries.get? [(counter, entity)] counter = some entity := by
    rw [Entries.get?_cons, if_pos rfl]
  have zero : Row.value db parameters next [(counter, entity)] (.number 0) = .int 0 := rfl
  simp only [Row.assigned_counted here some_, Database.read_eq here some_, zero] at whole
  generalize (if db.isNew entity next = true then db.store entity countedKey (.int 0) next
    else next) = start at leaves found counted whole
  obtain ⟨set, still, last⟩ := ledger.count (Row.value db parameters start [(counter, entity)]
    (.plus (.counted counter) (.number 1))) found
  refine ⟨_, _, _, whole, leaves.trans set, stores.append (Event.areStores_singleton _ _ _),
    fun number counts => ?_⟩
  have sum : Row.value db parameters start [(counter, entity)]
      (.plus (.counted counter) (.number 1)) = .int (number + 1) := by
    change Database.sum db (db.read _ counter countedKey start) (.int 1) = _
    rw [Database.read_eq here some_, counted number counts]
    exact ledger.add number 1
  rw [last, sum]
  refine ⟨rfl, ?_⟩
  unfold View.Counts
  rw [← sum, still]
  exact last

/-- Draws for rows, one after another, answer the next numbers. -/
theorem drawn_each {step : Row → σ → List Row × σ} {drawn type : String}
    (one : ∀ row state, ∃ value after events, step row state = ([(drawn, value) :: row], after) ∧
      ledger.Leaves db (some type) events state after ∧ AreStores events ∧
      ∀ number, ledger.Counts db type number state →
        value = .int (number + 1) ∧ ledger.Counts db type (number + 1) after)
    (rows : List Row) (state : σ) :
    ∃ values outs after events, eachRow step rows state = (outs, after) ∧
      List.Forall₂ (fun value out => Entries.get? out drawn = some value) values outs ∧
      ledger.Leaves db (some type) events state after ∧ AreStores events ∧
      ∀ number, ledger.Counts db type number state →
        values = (View.following number values.length).map .int ∧
          ledger.Counts db type (number + values.length) after := by
  induction rows generalizing state with
  | nil =>
      refine ⟨[], [], state, [], rfl, .nil, .refl _, fun _ member => (nomatch member), ?_⟩
      exact fun number counts => ⟨rfl, by simpa using counts⟩
  | cons row rest ih =>
      obtain ⟨value, middle, events, answers, leaves, stores, counted⟩ := one row state
      obtain ⟨values, outs, after, more, others, held, further, storing, counting⟩ := ih middle
      refine ⟨value :: values, ((drawn, value) :: row) :: outs, after, events ++ more, ?_, ?_,
        leaves.trans further, stores.append storing, fun number counts => ?_⟩
      · rw [eachRow_cons, answers, others]
        rfl
      · exact .cons (by rw [Entries.get?_cons, if_pos rfl]) held
      · obtain ⟨rfl, counts⟩ := counted number counts
        obtain ⟨same, counts⟩ := counting _ counts
        rw [List.length_cons, View.following_succ, List.map_cons, ← same]
        refine ⟨rfl, ?_⟩
        rw [Int.natCast_add, Int.add_comm (values.length : Int), ← Int.add_assoc]
        exact counts

/-- New relationships are made for rows, one after another, and all are different. -/
theorem made_each {pattern : RelationshipPattern} {drawn : String} (edging : pattern.name ≠ "")
    (apart : drawn ≠ pattern.name) {values : List Value} {rows : List Row}
    (held : List.Forall₂ (fun value row => Entries.get? row drawn = some value) values rows)
    (state : σ) :
    ∃ (pairs : List (Value × Value)) (outs : List Row) (after : σ),
      eachRow (fun row state =>
        let (made, after) := db.make row (.relationship pattern) state
        ([made], after)) rows state = (outs, after) ∧
      pairs.map Prod.snd = values ∧
      List.Forall₂ (fun pair out => Entries.get? out pattern.name = some pair.1 ∧
        Entries.get? out drawn = some pair.2) pairs outs ∧
      ledger.Leaves db none (pairs.map fun pair => .made pair.1 pattern.label) state after ∧
      (∀ pair ∈ pairs, ¬ ledger.isData pair.1 state ∧ ledger.isData pair.1 after) ∧
      pairs.Pairwise fun one other => one.1 ≠ other.1 := by
  induction held generalizing state with
  | nil => exact ⟨[], [], state, rfl, rfl, .nil, .refl _, fun _ member => (nomatch member), .nil⟩
  | @cons value row values rows here _ ih =>
      obtain ⟨leaves, new, data⟩ := ledger.makeRelationship ((row.get? pattern.source).getD .null)
        pattern.direction pattern.label ((row.get? pattern.target.name).getD .null) state
      generalize made : db.makeRelationship ((row.get? pattern.source).getD .null) pattern.direction
        pattern.label ((row.get? pattern.target.name).getD .null) state = result at leaves new data
      obtain ⟨relationship, next⟩ := result
      obtain ⟨pairs, outs, after, others, rfl, found, further, fresh, distinct⟩ := ih next
      refine ⟨(relationship, value) :: pairs, row.bind pattern.name relationship :: outs, after, ?_,
        rfl, .cons ⟨Row.get?_bind edging _, ?_⟩ found, leaves.trans further, ?_, ?_⟩
      · have first : db.make row (.relationship pattern) state =
            (row.bind pattern.name relationship, next) := by
          simp only [Database.make, made]
        rw [eachRow_cons, first, others]
        rfl
      · rw [Row.get?_bind_of_ne (Ne.symm apart)]
        exact here
      · intro pair member
        rcases List.mem_cons.mp member with rfl | later
        · exact ⟨new, further.data _ data⟩
        · exact ⟨fun old => (fresh pair later).1 (leaves.data _ old), (fresh pair later).2⟩
      · exact .cons (fun pair member same => (fresh pair member).1 (same ▸ data)) distinct

variable (parameters) in
/-- Assignments to data store values of its properties and leave the counters alone. -/
theorem assigned_leaves {row : Row} {owner : String} {entity : Value}
    {assignments : List (Expression × Expression)} (found : row.get? owner = some entity)
    (owned : AreOf owner assignments) {state : σ} (data : ledger.isData entity state) :
    ∃ events, ledger.Leaves db none events state (row.assigned db parameters assignments state) ∧
      ∀ event ∈ events, ∃ key value, event = .stored entity key value := by
  induction assignments generalizing state with
  | nil => exact ⟨[], .refl _, fun _ member => nomatch member⟩
  | cons assignment rest ih =>
      obtain ⟨target, value⟩ := assignment
      obtain ⟨key, same⟩ := owned _ (List.mem_cons_self ..)
      cases same
      have leaves := ledger.store key (row.value db parameters state value) data
      obtain ⟨events, further, stores⟩ := ih
        (fun other member => owned other (List.mem_cons_of_mem _ member)) (leaves.data _ data)
      rw [Row.assigned_cons found (ledger.data_some data)]
      refine ⟨_, leaves.trans further, fun event member => ?_⟩
      rcases List.mem_append.mp member with here | later
      · exact ⟨_, _, List.mem_singleton.mp here⟩
      · exact stores event later

variable (parameters) in
/-- Assignments for rows that each have data under a variable. -/
theorem assigned_each {owner : String} {assignments : List (Expression × Expression)}
    (owned : AreOf owner assignments) {rows : List Row} {state : σ}
    (found : ∀ row ∈ rows, ∃ entity, row.get? owner = some entity ∧ ledger.isData entity state) :
    ∃ events, ledger.Leaves db none events state
        (eachRow (fun row state => ([row], row.assigned db parameters assignments state)) rows
          state).2 ∧ AreStores events := by
  induction rows generalizing state with
  | nil => exact ⟨[], .refl _, fun _ member => nomatch member⟩
  | cons row rest ih =>
      obtain ⟨entity, here, data⟩ := found row (List.mem_cons_self ..)
      obtain ⟨events, leaves, stores⟩ := ledger.assigned_leaves parameters here owned data
      obtain ⟨others, further, storing⟩ := ih fun other member => by
        obtain ⟨entity, there, data⟩ := found other (List.mem_cons_of_mem _ member)
        exact ⟨entity, there, leaves.data _ data⟩
      refine ⟨_, leaves.trans further, .append (fun event member => ?_) storing⟩
      obtain ⟨key, value, same⟩ := stores event member
      exact ⟨entity, key, value, same⟩

variable (parameters) in
/-- Relationships in rows get the numbers of their rows first. -/
theorem numbered_each {edge drawn : String} (key : String)
    {assignments : List (Expression × Expression)}
    (owned : AreOf edge assignments) {pairs : List (Value × Value)} {rows : List Row}
    (found : List.Forall₂ (fun pair row => Entries.get? row edge = some pair.1 ∧
      Entries.get? row drawn = some pair.2) pairs rows) {state : σ}
    (data : ∀ pair ∈ pairs, ledger.isData pair.1 state)
    (distinct : pairs.Pairwise fun one other => one.1 ≠ other.1) :
    ∃ events, ledger.Leaves db none events state
        (eachRow (fun row state => ([row], row.assigned db parameters
          ((.property edge key, .variable drawn) :: assignments) state)) rows state).2 ∧
      AreStores events ∧ ∀ pair ∈ pairs, FirstStored pair.1 key events pair.2 := by
  induction found generalizing state with
  | nil => exact ⟨[], .refl _, fun _ member => (nomatch member), fun _ member => nomatch member⟩
  | @cons pair row pairs rows here _ ih =>
      obtain ⟨known, number⟩ := here
      obtain ⟨apart, distinct⟩ := List.pairwise_cons.mp distinct
      have present := data pair (List.mem_cons_self ..)
      have valued : row.value db parameters state (.variable drawn) = pair.2 := by
        change (row.get? drawn).getD .null = pair.2
        rw [number]
        rfl
      have first := ledger.store key pair.2 present
      obtain ⟨own, second, stores⟩ :=
        ledger.assigned_leaves parameters known owned (first.data _ present)
      obtain ⟨events, further, storing, numbered⟩ := ih
        (fun other member => second.data _ (first.data _ (data other (List.mem_cons_of_mem _ member))))
        distinct
      rw [eachRow_cons]
      dsimp only
      rw [Row.assigned_cons known (ledger.data_some present), valued]
      have ownStores : AreStores own := fun event member => ⟨pair.1, stores event member⟩
      refine ⟨_, (first.trans second).trans further,
        ((Event.areStores_singleton _ _ _).append ownStores).append storing, ?_⟩
      intro other member
      rcases List.mem_cons.mp member with rfl | later
      · exact ⟨[], own ++ events, rfl, fun _ member => nomatch member⟩
      -- What is stored before belongs to another relationship.
      · refine (numbered other later).behind fun value stored => ?_
        rcases List.mem_append.mp stored with here | among
        · exact apart other later (Event.stored.inj (List.mem_singleton.mp here)).1.symm
        · obtain ⟨_, _, same⟩ := stores _ among
          exact apart other later (Event.stored.inj same).1.symm

/-- Nodes that are created for rows are data. -/
theorem nodes_each {pattern : NodePattern}
    (names : Pattern.Names (· ≠ features.sequenceLabel) (.node pattern)) (rows : List Row)
    (state : σ) :
    ∃ outs after, eachRow (fun row state =>
        let (made, after) := db.make row (.node pattern) state
        ([made], after)) rows state = (outs, after) ∧
      ledger.Leaves db none [] state after ∧
      ∀ out ∈ outs, ∃ entity, Entries.get? out pattern.name = some entity ∧
        ledger.isData entity after := by
  obtain ⟨some_, label, labelled, other⟩ := names
  induction rows generalizing state with
  | nil => exact ⟨[], state, rfl, .refl _, fun _ member => nomatch member⟩
  | cons row rest ih =>
      obtain ⟨leaves, data⟩ := ledger.makeNode state other
      generalize made : db.makeNode (some label) state = result at leaves data
      obtain ⟨node, next⟩ := result
      obtain ⟨outs, after, others, further, found⟩ := ih next
      refine ⟨row.bind pattern.name node :: outs, after, ?_, leaves.trans further, ?_⟩
      · have first : db.make row (.node pattern) state = (row.bind pattern.name node, next) := by
          simp only [Database.make, labelled, made]
        rw [eachRow_cons, first, others]
        rfl
      · intro out member
        rcases List.mem_cons.mp member with rfl | later
        · exact ⟨node, Row.get?_bind some_ node, further.data _ data⟩
        · exact found out later

/-- What a pattern finds under its name is data. -/
theorem data_of_mem_extensions {pattern : Pattern}
    (names : pattern.Names (· ≠ features.sequenceLabel)) {row out : Row} {state : σ}
    (member : out ∈ db.extensions state row pattern) :
    ∃ entity, Entries.get? out pattern.name = some entity ∧ ledger.isData entity state := by
  cases pattern with
  | node pattern =>
      obtain ⟨some_, label, labelled, other⟩ := names
      unfold Database.extensions at member
      dsimp only at member
      rw [labelled] at member
      obtain ⟨node, found, rfl⟩ := List.mem_map.mp member
      exact ⟨node, Row.get?_bind some_ node, ledger.nodes other found⟩
  | relationship pattern =>
      obtain ⟨some_, apart⟩ := names
      unfold Database.extensions at member
      dsimp only at member
      split at member
      · cases member
      · cases member
      · obtain ⟨⟨relationship, target⟩, found, rfl⟩ := List.mem_map.mp member
        refine ⟨relationship, ?_, ledger.related found⟩
        exact (Row.get?_bind_of_ne (Ne.symm apart) target).trans (Row.get?_bind some_ relationship)

variable (parameters) in
/-- Assignments to nodes that are created leave the counters alone. -/
theorem node_leaves {pattern : NodePattern} {assignments : List (Expression × Expression)}
    (names : Pattern.Names (· ≠ features.sequenceLabel) (.node pattern))
    (owned : AreOf pattern.name assignments) (flow : Flow σ) :
    ∃ events, ledger.Leaves db none events flow.state
        (Clause.through db parameters [.create (.node pattern), .set assignments] flow).state ∧
      AreStores events := by
  obtain ⟨outs, after, making, leaves, found⟩ := ledger.nodes_each names
    (flow.settled db parameters []).rows (flow.settled db parameters []).state
  obtain ⟨events, last, stores⟩ := ledger.assigned_each parameters owned found
  have first : (Clause.create (.node pattern)).run db parameters flow =
      { rows := outs, state := after } := Flow.each_eq (Flow.waiting_settled ..) making
  change ∃ events, ledger.Leaves db none events flow.state ((Clause.set assignments).run db
    parameters ((Clause.create (.node pattern)).run db parameters flow)).state ∧ _
  rw [first, ← Flow.state_settled db parameters flow []]
  exact ⟨_, leaves.trans last, stores⟩

variable (parameters) in
/-- Assignments to what is found leave the counters alone. -/
theorem found_leaves {pattern : Pattern} {assignments : List (Expression × Expression)}
    (names : pattern.Names (· ≠ features.sequenceLabel)) (owned : AreOf pattern.name assignments)
    (conditions : List Expression) (flow : Flow σ) :
    ∃ events, ledger.Leaves db none events flow.state
        (Clause.through db parameters
          (.find pattern :: (Clause.filtering conditions ++ Clause.setting assignments)) flow).state ∧
      AreStores events := by
  change ∃ events, ledger.Leaves db none events flow.state (Clause.through db parameters
    (Clause.filtering conditions ++ Clause.setting assignments)
    ((Clause.find pattern).run db parameters flow)).state ∧ _
  have ready : ((Clause.find pattern).run db parameters flow).waiting = none :=
    Flow.waiting_settled ..
  have state : ((Clause.find pattern).run db parameters flow).state = flow.state :=
    Clause.state_run_of_reads _ rfl flow
  obtain ⟨rows, kept, inside⟩ := Clause.through_filtering conditions ready
  rw [Clause.through_append, kept, Clause.state_through_setting _ rfl, state]
  refine ledger.assigned_each parameters owned fun row member => ?_
  obtain ⟨before, -, found⟩ := List.mem_flatMap.mp (inside row member)
  rw [Flow.state_settled] at found
  exact ledger.data_of_mem_extensions names found

theorem eachRow_advances {key type : String} {step : Row → σ → List Row × σ}
    (one : ∀ row state, ledger.Advances db key type state (step row state).2) (rows : List Row)
    (state : σ) : ledger.Advances db key type state (eachRow step rows state).2 := by
  induction rows generalizing state with
  | nil => exact .refl _
  | cons row rest ih => exact (one row state).trans (ih _)

/-- The rows behind a draw have the next numbers. -/
theorem run_drawing {counter type : String} {name : Expression} (counting : counter ≠ "")
    (drawn : String) (held : Holds (.text type) name parameters) (flow : Flow σ) :
    ∃ values outs after events,
      (Clause.subquery [] (Clause.drawing features counter drawn name)).run db parameters flow =
        { rows := outs, state := after } ∧
      List.Forall₂ (fun value out => Entries.get? out drawn = some value) values outs ∧
      ledger.Leaves db (some type) events flow.state after ∧ AreStores events ∧
      ∀ number, ledger.Counts db type number flow.state →
        values = (View.following number values.length).map .int ∧
          ledger.Counts db type (number + values.length) after := by
  have one (row : Row) (state : σ) : ∃ value after events,
      ((Clause.runAll db parameters [row.imported []] (Clause.drawing features counter drawn name)
          { rows := [row.imported []], state }).rows.map (· ++ row),
        (Clause.runAll db parameters [row.imported []] (Clause.drawing features counter drawn name)
          { rows := [row.imported []], state }).state) = ([(drawn, value) :: row], after) ∧
      ledger.Leaves db (some type) events state after ∧ AreStores events ∧
      ∀ number, ledger.Counts db type number state →
        value = .int (number + 1) ∧ ledger.Counts db type (number + 1) after := by
    obtain ⟨value, after, events, whole, rest⟩ := ledger.drawn counting held state
    have imported : row.imported [] = [] := by simp [Row.imported]
    have whole : Clause.runAll db parameters [[]] (Clause.drawing features counter drawn name)
        { rows := [[]], state } = { rows := [[(drawn, value)]], state := after } := whole
    refine ⟨value, after, events, ?_, rest⟩
    rw [imported, whole]
    rfl
  obtain ⟨values, outs, after, events, answered, rest⟩ := ledger.drawn_each one
    (flow.settled db parameters []).rows (flow.settled db parameters []).state
  rw [Flow.state_settled] at rest
  exact ⟨values, outs, after, events, Flow.each_eq (Flow.waiting_settled ..) answered, rest⟩

/-- A relationship that is created gets the next number of its counter, for each row. -/
theorem relationship_advances {counter drawn type : String} {name : Expression}
    {pattern : RelationshipPattern} {assignments : List (Expression × Expression)}
    (held : Holds (.text pattern.label) name parameters) (counting : counter ≠ "")
    (edging : pattern.name ≠ "") (apart : drawn ≠ pattern.name)
    (owned : AreOf pattern.name assignments) (key : String) (flow : Flow σ) :
    ledger.Advances db key type flow.state
      (Clause.through db parameters
        [.subquery [] (Clause.drawing features counter drawn name),
         .create (.relationship pattern),
         .set ((.property pattern.name key, .variable drawn) :: assignments)] flow).state := by
  obtain ⟨values, outs, after, events, first, valued, leaves, stores, counted⟩ :=
    ledger.run_drawing counting drawn held flow
  obtain ⟨pairs, created, made, making, rfl, found, further, fresh, distinct⟩ :=
    ledger.made_each edging apart valued after
  obtain ⟨own, last, storing, numbered⟩ := ledger.numbered_each parameters key
    owned found (fun pair member => (fresh pair member).2) distinct
  have second : (Clause.create (.relationship pattern)).run db parameters
      { rows := outs, state := after } = { rows := created, state := made } :=
    Flow.each_eq rfl making
  have state : (Clause.through db parameters
      [.subquery [] (Clause.drawing features counter drawn name), .create (.relationship pattern),
        .set ((.property pattern.name key, .variable drawn) :: assignments)] flow).state =
      (eachRow (fun row state => ([row], row.assigned db parameters
        ((.property pattern.name key, .variable drawn) :: assignments) state)) created made).2 := by
    change ((Clause.set _).run db parameters ((Clause.create _).run db parameters
      ((Clause.subquery _ _).run db parameters flow))).state = _
    rw [first, second]
    rfl
  rw [state]
  have behind := further.trans last
  have whole := leaves.trans behind.weaken
  refine ⟨_, whole.journal, fun number counts => ?_⟩
  have numbers : Numbers key type events [] := Event.numbers_of_areStores stores
  by_cases same : pattern.label = type
  · subst same
    obtain ⟨following, counts⟩ := counted number counts
    refine ⟨_, behind.counts (by simp) counts, ?_⟩
    rw [← following]
    exact numbers.append (Event.numbers_made storing numbered)
  · refine ⟨0, ?_, numbers.append
      (Event.numbers_made_others same pairs (Event.numbers_of_areStores storing))⟩
    simpa using whole.counts (by simpa using same) counts

theorem runAll_advances {key type : String} {clauses rest : List Clause} {start : List Row}
    {flow : Flow σ} (plain : .union ∉ clauses)
    (first : ledger.Advances db key type flow.state
      (Clause.through db parameters clauses flow).state)
    (others : ∀ flow : Flow σ, ledger.Advances db key type flow.state
      (Clause.runAll db parameters start rest flow).state) :
    ledger.Advances db key type flow.state
      (Clause.runAll db parameters start (clauses ++ rest) flow).state := by
  rw [Clause.runAll_append plain]
  exact first.trans (others _)

/-- Paired clauses give the relationships that they create the next numbers of their counters. -/
theorem advances {clauses : List Clause} {made : Option String}
    (paired : Clause.Paired features parameters (· ≠ features.sequenceLabel) made clauses)
    (type : String) (start : List Row) (flow : Flow σ) :
    ledger.Advances db features.sequenceProperty type flow.state
      (Clause.runAll db parameters start clauses flow).state := by
  induction paired generalizing start flow with
  | nil =>
      rw [Clause.runAll, Flow.state_settled]
      exact .refl _
  | @reads _ clause rest reading _ ih =>
      by_cases plain : clause = .union
      · subst plain
        have later := ih start { rows := start, state := (flow.settled db parameters []).state }
        rw [← Flow.state_settled db parameters flow []]
        exact later
      · rw [Clause.runAll_cons plain]
        have later := ih start (clause.run db parameters flow)
        rw [Clause.state_run_of_reads clause reading] at later
        exact later
  | @subquery _ _ imports body rest _ _ inside ih =>
      have plain : Clause.subquery imports body ≠ .union := fun impossible => nomatch impossible
      rw [Clause.runAll_cons plain]
      refine View.Advances.trans ?_ (ih start _)
      rw [← Flow.state_settled db parameters flow []]
      exact ledger.eachRow_advances (fun row state => inside [row.imported imports]
        { rows := [row.imported imports], state }) _ _
  | @node _ pattern assignments rest names owned _ ih =>
      obtain ⟨events, leaves, stores⟩ := ledger.node_leaves parameters names owned flow
      have plain : Clause.union ∉ [.create (.node pattern), .set assignments] := by simp
      exact ledger.runAll_advances plain (leaves.advances stores) (ih start)
  | @found _ pattern conditions assignments rest names owned _ ih =>
      obtain ⟨events, leaves, stores⟩ := ledger.found_leaves parameters names owned conditions flow
      exact ledger.runAll_advances (Clause.union_not_mem_found pattern conditions assignments)
        (leaves.advances stores) (ih start)
  | @relationship counter drawn name pattern assignments _ held counting _ edging apart owned _ ih =>
      have plain : Clause.union ∉ [.subquery [] (Clause.drawing features counter drawn name),
          .create (.relationship pattern),
          .set ((.property pattern.name features.sequenceProperty, .variable drawn) ::
            assignments)] := by simp
      exact ledger.runAll_advances plain
        (ledger.relationship_advances held counting edging apart owned _ flow) (ih start)

end

end Database.Ledger

/-- Runs of statements of a kind, one after another.  A transaction keeps the counters that it draws
from to itself until it is committed, so that what is drawn from one counter is drawn in this order. -/
inductive Runs {σ : Type} (db : Database σ) (kind : Entries Value → List Clause → Prop) :
    σ → σ → Prop where
  | refl (state : σ) : Runs db kind state state
  | next {start state : σ} {parameters : Entries Value} {clauses : List Clause}
      (before : Runs db kind start state) (known : kind parameters clauses) :
      Runs db kind start (Clause.result db parameters clauses state).state

/-- Over a run of paired statements the relationships of a type get the next numbers, in order. -/
theorem Runs.advances {σ : Type} {db : Database σ} {features : Features}
    (ledger : db.Ledger features.sequenceLabel) {kind : Entries Value → List Clause → Prop}
    (paired : ∀ parameters clauses, kind parameters clauses →
      Clause.Paired features parameters (· ≠ features.sequenceLabel) none clauses)
    {start state : σ} (runs : Runs db kind start state) (type : String) :
    ledger.Advances db features.sequenceProperty type start state := by
  induction runs with
  | refl => exact .refl _
  | next _ known ih => exact ih.trans (ledger.advances (paired _ _ known) type [[]] _)

end GraphGateway.Cypher
