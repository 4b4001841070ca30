import GraphGateway.Proofs.Store.Sessions

/-!
Trials of a transaction.  A trial runs statements one after another up to the first that the
server refuses or whose rows are not accepted, and it commits only behind the last of them.  What a
trial came to is told here by relations between the states of the server, without the monad that
the gateway runs in.
-/
namespace GraphGateway.Store

open Access
open Statement (Compiled)

/-- What the journal has of a statement in a transaction. -/
def ranEvent (statement : Compiled) : Event :=
  .ran statement.text (some statement.parameters)

section

variable {σ : Type} (server : Server σ)

/-- Statements ran one after another, each was answered with rows, and all rows were accepted. -/
inductive Passed : σ → List Compiled → List Value → σ → Prop where
  | nil (state : σ) : Passed state [] [] state
  | cons {state next final : σ} {statement : Compiled} {rest : List Compiled} {rows : Value}
      {others : List Value}
      (ran : server.run statement.text statement.parameters state = (.ok rows, next))
      (accepted : statement.verify rows = .ok ())
      (passed : Passed next rest others final) :
      Passed state (statement :: rest) (rows :: others) final

/-- A statement was refused by the server, or its rows were not accepted. -/
inductive Stopped (statement : Compiled) : σ → Interruption → σ → Prop where
  | refused {state next : σ} {fault : ServerFault}
      (ran : server.run statement.text statement.parameters state = (.error fault, next)) :
      Stopped statement state (.server fault) next
  | unverified {state next : σ} {rows : Value} {failure : Request.Failure}
      (ran : server.run statement.text statement.parameters state = (.ok rows, next))
      (rejected : statement.verify rows = .error failure) :
      Stopped statement state (.request failure) next

/-- One trial of a transaction: what the journal has of it and what came of it. -/
inductive Trial (writes : Bool) (statements : List Compiled) :
    σ → List Event → Except Interruption (List Value) → σ → Prop where
  | committed {start last final : σ} {rows : List Value}
      (passed : Passed server start statements rows last)
      (commit : server.commit last = (.ok (), final)) :
      Trial writes statements start
        (.began writes :: (statements.map ranEvent ++ [.committed])) (.ok rows) final
  | uncommitted {start last final : σ} {rows : List Value} {fault : ServerFault}
      (passed : Passed server start statements rows last)
      (commit : server.commit last = (.error fault, final)) :
      Trial writes statements start
        (.began writes :: (statements.map ranEvent ++ [.rolledBack])) (.error (.server fault)) final
  | stopped {start middle final : σ} {before rest : List Compiled} {statement : Compiled}
      {rows : List Value} {interruption : Interruption}
      (order : statements = before ++ statement :: rest)
      (passed : Passed server start before rows middle)
      (stop : Stopped server statement middle interruption final) :
      Trial writes statements start
        (.began writes :: ((before ++ [statement]).map ranEvent ++ [.rolledBack]))
        (.error interruption) final

/-- Trials that were given up one after another, each with a fault that the server lets pass. -/
inductive Abandoned (writes : Bool) (statements : List Compiled) :
    Nat → σ → List Event → σ → Prop where
  | none (state : σ) : Abandoned writes statements 0 state [] state
  | more {count : Nat} {start next final : σ} {events others : List Event}
      {interruption : Interruption}
      (trial : Trial server writes statements start events (.error interruption) next)
      (retried : server.retriesAfter interruption = true)
      (abandoned : Abandoned writes statements count next others final) :
      Abandoned writes statements (count + 1) start (events ++ others) final

variable {server}

theorem Passed.length_eq {start final : σ} {statements : List Compiled} {rows : List Value}
    (passed : Passed server start statements rows final) : rows.length = statements.length := by
  induction passed with
  | nil state => rfl
  | cons ran accepted passed ih => simp only [List.length_cons, ih]

/-- Where statements pass, they pass in one way. -/
theorem Passed.unique {start final other : σ} {statements : List Compiled} {rows others : List Value}
    (passed : Passed server start statements rows final)
    (again : Passed server start statements others other) : rows = others ∧ final = other := by
  induction passed generalizing others other with
  | nil state =>
      cases again
      exact ⟨rfl, rfl⟩
  | cons ran accepted passed ih =>
      cases again with
      | cons ranAgain acceptedAgain passedAgain =>
          rw [ran] at ranAgain
          cases ranAgain
          obtain ⟨sameRows, sameState⟩ := ih passedAgain
          exact ⟨by rw [sameRows], sameState⟩

/-- A statement stops in one way. -/
theorem Stopped.unique {statement : Compiled} {state next other : σ}
    {interruption another : Interruption}
    (stop : Stopped server statement state interruption next)
    (again : Stopped server statement state another other) : interruption = another := by
  cases stop with
  | refused ran =>
      cases again with
      | refused ranAgain =>
          rw [ran] at ranAgain
          cases ranAgain
          rfl
      | unverified ranAgain rejected =>
          rw [ran] at ranAgain
          cases ranAgain
  | unverified ran rejected =>
      cases again with
      | refused ranAgain =>
          rw [ran] at ranAgain
          cases ranAgain
      | unverified ranAgain rejectedAgain =>
          rw [ran] at ranAgain
          cases ranAgain
          rw [rejected] at rejectedAgain
          cases rejectedAgain
          rfl

/-- A statement that passes does not stop. -/
theorem Stopped.not_accepted {statement : Compiled} {state next last : σ} {rows : Value}
    {interruption : Interruption} (stop : Stopped server statement state interruption next)
    (ran : server.run statement.text statement.parameters state = (.ok rows, last)) :
    statement.verify rows ≠ .ok () := by
  intro accepted
  cases stop with
  | refused refusal =>
      rw [ran] at refusal
      cases refusal
  | unverified answered rejected =>
      rw [ran] at answered
      cases answered
      rw [accepted] at rejected
      cases rejected

/-- A statement that stopped a trial keeps the statements from passing. -/
theorem Passed.not_stopped {start middle final last : σ} {before rest : List Compiled}
    {statement : Compiled} {rows others : List Value} {interruption : Interruption}
    (passed : Passed server start before rows middle)
    (stop : Stopped server statement middle interruption final) :
    ¬ Passed server start (before ++ statement :: rest) others last := by
  intro all
  induction passed generalizing others with
  | nil state =>
      cases all with
      | cons ran accepted passed => exact stop.not_accepted ran accepted
  | cons ran accepted passed ih =>
      cases all with
      | cons ranAgain acceptedAgain passedAgain =>
          rw [ran] at ranAgain
          cases ranAgain
          exact ih stop passedAgain

/-- Statements stop at one place. -/
theorem Passed.stops_once {start middle next central other : σ}
    {before rest earlier later : List Compiled} {statement last : Compiled}
    {rows others : List Value} {interruption another : Interruption}
    (order : before ++ statement :: rest = earlier ++ last :: later)
    (passed : Passed server start before rows middle)
    (stop : Stopped server statement middle interruption next)
    (again : Passed server start earlier others central)
    (stopAgain : Stopped server last central another other) :
    before = earlier ∧ statement = last ∧ interruption = another := by
  induction passed generalizing earlier others with
  | nil state =>
      cases again with
      | nil state =>
          cases order
          exact ⟨rfl, rfl, stop.unique stopAgain⟩
      | cons ran accepted passed =>
          cases order
          exact absurd accepted (stop.not_accepted ran)
  | cons ran accepted passed ih =>
      cases again with
      | nil state =>
          cases order
          exact absurd accepted (stopAgain.not_accepted ran)
      | cons ranAgain acceptedAgain passedAgain =>
          obtain ⟨same, orderLeft⟩ := List.cons.inj order
          subst same
          rw [ran] at ranAgain
          cases ranAgain
          obtain ⟨sameBefore, sameStatement, sameStop⟩ := ih orderLeft stop passedAgain
          exact ⟨by rw [sameBefore], sameStatement, sameStop⟩

theorem committed_not_mem_ranEvents (statements : List Compiled) :
    Event.committed ∉ statements.map ranEvent := by
  intro member
  obtain ⟨statement, -, same⟩ := List.mem_map.mp member
  cases same

/-- A trial commits exactly if it answers rows. -/
theorem Trial.committed_mem_iff {writes : Bool} {statements : List Compiled} {start final : σ}
    {events : List Event} {result : Except Interruption (List Value)}
    (trial : Trial server writes statements start events result final) :
    Event.committed ∈ events ↔ ∃ rows, result = .ok rows := by
  cases trial with
  | committed passed commit => simp
  | uncommitted passed commit => simp [committed_not_mem_ranEvents]
  | stopped order passed stop => simp [ranEvent]

/-- A trial answers rows exactly if its statements passed with them and the commit was accepted. -/
theorem Trial.rows_iff {writes : Bool} {statements : List Compiled} {start final : σ}
    {events : List Event} {result : Except Interruption (List Value)}
    (trial : Trial server writes statements start events result final) (rows : List Value) :
    result = .ok rows ↔
      ∃ last, Passed server start statements rows last ∧ (server.commit last).1 = .ok () := by
  cases trial with
  | committed passed commit =>
      constructor
      · intro same
        cases same
        exact ⟨_, passed, by rw [commit]⟩
      · rintro ⟨other, again, -⟩
        rw [(passed.unique again).1]
  | uncommitted passed commit =>
      constructor
      · intro impossible
        cases impossible
      · rintro ⟨other, again, accepted⟩
        rw [← (passed.unique again).2, commit] at accepted
        cases accepted
  | stopped order passed stop =>
      constructor
      · intro impossible
        cases impossible
      · rintro ⟨other, all, -⟩
        rw [order] at all
        exact absurd all (passed.not_stopped stop)

/-- A trial that comes to a statement that stops ends there, with what it stopped for. -/
theorem Trial.eq_of_stopped {writes : Bool} {statements before rest : List Compiled}
    {statement : Compiled} {start middle next final : σ} {events : List Event}
    {result : Except Interruption (List Value)} {rows : List Value} {interruption : Interruption}
    (trial : Trial server writes statements start events result final)
    (order : statements = before ++ statement :: rest)
    (passed : Passed server start before rows middle)
    (stop : Stopped server statement middle interruption next) :
    result = .error interruption ∧
      events = .began writes :: ((before ++ [statement]).map ranEvent ++ [.rolledBack]) := by
  cases trial with
  | committed all commit =>
      rw [order] at all
      exact absurd all (passed.not_stopped stop)
  | uncommitted all commit =>
      rw [order] at all
      exact absurd all (passed.not_stopped stop)
  | stopped orderAgain passedAgain stopAgain =>
      obtain ⟨sameBefore, sameStatement, sameStop⟩ :=
        Passed.stops_once (order ▸ orderAgain) passed stop passedAgain stopAgain
      rw [sameBefore, sameStatement, sameStop]
      exact ⟨rfl, rfl⟩

theorem Abandoned.committed_not_mem {writes : Bool} {statements : List Compiled} {count : Nat}
    {start final : σ} {events : List Event}
    (abandoned : Abandoned server writes statements count start events final) :
    Event.committed ∉ events := by
  induction abandoned with
  | none state => exact List.not_mem_nil
  | more trial retried abandoned ih =>
      rw [List.mem_append, trial.committed_mem_iff]
      rintro (⟨rows, impossible⟩ | member)
      · cases impossible
      · exact ih member

/-- Where no trial is given up with something that the server lets pass, none is given up. -/
theorem Abandoned.eq_none {writes : Bool} {statements : List Compiled} {count : Nat}
    {start final : σ} {events : List Event}
    (abandoned : Abandoned server writes statements count start events final)
    (decided : ∀ others interruption last,
      Trial server writes statements start others (.error interruption) last →
        server.retriesAfter interruption = false) : events = [] ∧ final = start := by
  cases abandoned with
  | none state => exact ⟨rfl, rfl⟩
  | more trial retried abandoned =>
      rw [decided _ _ _ trial] at retried
      cases retried

variable (server)

/-- Running a statement and verifying its rows either goes on or stops. -/
theorem run_runVerified (statement : Compiled) (link : Link σ) :
    (∃ rows next, server.run statement.text statement.parameters link.state = (.ok rows, next) ∧
      statement.verify rows = .ok () ∧
      (runVerified server statement).run link =
        (.ok rows, { link with state := next, journal := link.journal ++ [ranEvent statement] })) ∨
    ∃ interruption next, Stopped server statement link.state interruption next ∧
      (runVerified server statement).run link =
        (.error interruption,
          { link with state := next, journal := link.journal ++ [ranEvent statement] }) := by
  let noted : Link σ := { link with journal := link.journal ++ [ranEvent statement] }
  have noting : (note (.ran statement.text (some statement.parameters)) : Access σ Unit).run link =
      (.ok (), noted) := run_note _ link
  unfold runVerified
  rw [run_bind_ok noting]
  rcases reply : server.run statement.text statement.parameters link.state with ⟨answer, next⟩
  cases answer with
  | error fault =>
      right
      refine ⟨.server fault, next, .refused reply, ?_⟩
      rw [run_bind_error (run_ask_error noted reply)]
  | ok rows =>
      rw [run_bind_ok (run_ask_ok noted reply)]
      cases verified : statement.verify rows with
      | ok accepted =>
          left
          exact ⟨rows, next, rfl, verified, rfl⟩
      | error failure =>
          right
          exact ⟨.request failure, next, .unverified reply verified, rfl⟩

/-- Running statements either passes all of them or stops at one, behind which none is run. -/
theorem run_runAll (statements : List Compiled) (link : Link σ) :
    (∃ rows final, Passed server link.state statements rows final ∧
      (runAll server statements).run link =
        (.ok rows,
          { link with state := final, journal := link.journal ++ statements.map ranEvent })) ∨
    ∃ before statement rest rows middle interruption final,
      statements = before ++ statement :: rest ∧
      Passed server link.state before rows middle ∧
      Stopped server statement middle interruption final ∧
      (runAll server statements).run link =
        (.error interruption,
          { link with
            state := final
            journal := link.journal ++ (before ++ [statement]).map ranEvent }) := by
  induction statements generalizing link with
  | nil =>
      left
      exact ⟨[], link.state, .nil _, by simp [runAll, run_pure]⟩
  | cons statement rest ih =>
      unfold runAll
      obtain ⟨rows, next, reply, accepted, ran⟩ | ⟨interruption, next, stop, ran⟩ :=
        run_runVerified server statement link
      · rw [run_bind_ok ran]
        obtain ⟨others, final, passed, all⟩ |
            ⟨before, last, left, others, middle, interruption, final, order, passed, stop, all⟩ :=
          ih { link with state := next, journal := link.journal ++ [ranEvent statement] }
        · left
          refine ⟨rows :: others, final, .cons reply accepted passed, ?_⟩
          rw [run_bind_ok all]
          simp [run_pure]
        · right
          refine ⟨statement :: before, last, left, rows :: others, middle, interruption, final,
            by rw [order]; rfl, .cons reply accepted passed, stop, ?_⟩
          rw [run_bind_error all]
          simp
      · right
        refine ⟨[], statement, rest, [], link.state, interruption, next, rfl, .nil _, stop, ?_⟩
        rw [run_bind_error ran]
        simp

/-- The work of a transaction: all statements, and the commit behind them. -/
def runCommitted (statements : List Compiled) : Access σ (List Value) := do
  let rows ← runAll server statements
  ask server.commit
  pure rows

/-- A transaction is begun before its work, and committed or rolled back behind it. -/
theorem run_transactionOnce_of {writes : Bool} {statements : List Compiled} {link after : Link σ}
    {result : Except Interruption (List Value)}
    (ran : (runCommitted server statements).run
      { link with journal := link.journal ++ [Event.began writes] } = (result, after)) :
    (transactionOnce server writes statements).run link =
      (.ok result, { after with
        journal := after.journal ++ [if result.isOk then .committed else .rolledBack] }) := by
  change ((note (.began writes) : Access σ Unit) >>= fun _ =>
    outcome (runCommitted server statements) >>= fun result =>
      note (if result.isOk then .committed else .rolledBack) >>= fun _ => pure result).run link = _
  rw [run_bind_ok (run_note _ _), run_bind_ok (run_outcome _ _), ran]
  rfl

/-- What is done in one transaction is a trial. -/
theorem run_transactionOnce (writes : Bool) (statements : List Compiled) (link : Link σ) :
    ∃ events result final, Trial server writes statements link.state events result final ∧
      (transactionOnce server writes statements).run link =
        (.ok result, { link with state := final, journal := link.journal ++ events }) := by
  let begun : Link σ := { link with journal := link.journal ++ [.began writes] }
  obtain ⟨rows, last, passed, ran⟩ |
      ⟨before, statement, rest, rows, middle, interruption, final, order, passed, stop, ran⟩ :=
    run_runAll server statements begun
  · let done : Link σ :=
      { begun with state := last, journal := begun.journal ++ statements.map ranEvent }
    rcases reply : server.commit last with ⟨answer, final⟩
    cases answer with
    | ok accepted =>
        have worked : (runCommitted server statements).run begun =
            (.ok rows, { done with state := final }) := by
          unfold runCommitted
          rw [run_bind_ok ran, run_bind_ok (run_ask_ok done reply), run_pure]
        refine ⟨_, _, final, .committed passed reply, ?_⟩
        rw [run_transactionOnce_of server worked]
        simp [begun, done, Except.isOk, Except.toBool]
    | error fault =>
        have worked : (runCommitted server statements).run begun =
            (.error (.server fault), { done with state := final }) := by
          unfold runCommitted
          rw [run_bind_ok ran, run_bind_error (run_ask_error done reply)]
        refine ⟨_, _, final, .uncommitted passed reply, ?_⟩
        rw [run_transactionOnce_of server worked]
        simp [begun, done, Except.isOk, Except.toBool]
  · have worked : (runCommitted server statements).run begun = (.error interruption, _) :=
      run_bind_error ran
    refine ⟨_, _, final, .stopped order passed stop, ?_⟩
    rw [run_transactionOnce_of server worked]
    simp [begun, Except.isOk, Except.toBool]

/-- A transaction gives up some trials and ends with what its last trial came to. -/
theorem run_transaction (writes : Bool) (statements : List Compiled) (left : Nat) (link : Link σ) :
    ∃ count earlier start events result final, count ≤ left ∧
      Abandoned server writes statements count link.state earlier start ∧
      Trial server writes statements start events result final ∧
      (transaction server writes statements left).run link =
        (result, { link with state := final, journal := link.journal ++ (earlier ++ events) }) := by
  induction left generalizing link with
  | zero =>
      obtain ⟨events, result, final, trial, ran⟩ :=
        run_transactionOnce server writes statements link
      refine ⟨0, [], link.state, events, result, final, Nat.le_refl 0, .none _, trial, ?_⟩
      unfold transaction
      rw [run_bind_ok ran]
      cases result <;> rfl
  | succ left ih =>
      obtain ⟨events, result, final, trial, ran⟩ :=
        run_transactionOnce server writes statements link
      unfold transaction
      rw [run_bind_ok ran]
      cases result with
      | ok rows =>
          exact ⟨0, [], link.state, events, .ok rows, final, Nat.zero_le _, .none _, trial, rfl⟩
      | error interruption =>
          cases retried : server.retriesAfter interruption with
          | false =>
              refine ⟨0, [], link.state, events, .error interruption, final, Nat.zero_le _, .none _,
                trial, ?_⟩
              simp [retried, run_throw]
          | true =>
              obtain ⟨count, earlier, start, last, result, finish, bound, abandoned, done, again⟩ :=
                ih { link with state := final, journal := link.journal ++ events }
              refine ⟨count + 1, events ++ earlier, start, last, result, finish,
                Nat.succ_le_succ bound, .more trial retried abandoned, done, ?_⟩
              simp [retried, again]

/-- With what options the sessions of a connection are opened. -/
def sessionOptions (connection : Settings.Connection) : Entries Value :=
  [databaseOption connection.database, ("fetch_size", .int connection.fetchSize)]

section

variable (connection : Settings.Connection) {statements : List Compiled} (writes : Bool)
  {link : Link σ}

theorem run_execute_eq (some_ : statements ≠ []) :
    execute server connection statements writes =
      session server connection (transaction server writes statements server.patience) := by
  unfold execute
  rw [if_neg (by simpa using some_)]

/-- Without a driver nothing that needs one gets anywhere. -/
theorem run_needing_driver {β : Type} {next : Nat → Access σ β} (unknown : link.driver = none) :
    (driverInUse >>= next : Access σ β).run link = (.error (.store .notConnected), link) := by
  refine run_bind_error ?_
  unfold driverInUse
  rw [run_bind_ok (run_get link), unknown]
  rfl

/-- Without a driver no statement gets anywhere near the server. -/
theorem run_execute_of_unconnected (some_ : statements ≠ []) (unconnected : link.driver = none) :
    (execute server connection statements writes).run link =
      (.error (.store .notConnected), link) := by
  rw [run_execute_eq server connection writes some_]
  exact run_needing_driver unconnected

/-- In a driver that is there, the work is done in a session of it. -/
theorem run_session {α : Type} {driver : Nat} (work : Access σ α)
    (connected : link.driver = some driver) :
    (session server connection work).run link =
      (inSession server driver (sessionOptions connection) work).run link := by
  have found : (driverInUse : Access σ Nat).run link = (.ok driver, link) := by
    unfold driverInUse
    rw [run_bind_ok (run_get link), connected]
    rfl
  unfold session
  rw [run_bind_ok found]
  rfl

/-- A session that does not open has nothing done in it, and needs no closing. -/
theorem run_execute_of_unopened {driver : Nat} {fault : ServerFault} {state : σ}
    (some_ : statements ≠ []) (connected : link.driver = some driver)
    (unopened : server.openSession driver link.state = (.error fault, state)) :
    (execute server connection statements writes).run link =
      (.error (.server fault), { link with
        state, journal := link.journal ++ [.session (sessionOptions connection)] }) := by
  rw [run_execute_eq server connection writes some_, run_session server connection _ connected]
  let noted : Link σ :=
    { link with journal := link.journal ++ [.session (sessionOptions connection)] }
  have failed := run_ask_error noted unopened
  unfold inSession
  rw [run_bind_ok (run_note _ _), run_bind_error failed]

/-- In a session that opens, trials are made up to one that is not given up; what that one came to
is what the caller gets, once the session is closed. -/
theorem run_execute_of_opened {driver : Nat} {opened : σ} (some_ : statements ≠ [])
    (connected : link.driver = some driver)
    (opening : server.openSession driver link.state = (.ok (), opened)) :
    ∃ count earlier start events result final, count ≤ server.patience ∧
      Abandoned server writes statements count opened earlier start ∧
      Trial server writes statements start events result final ∧
      (execute server connection statements writes).run link = (result, { link with
        state := final
        journal := link.journal ++
          .session (sessionOptions connection) :: (earlier ++ events ++ [.sessionClosed]) }) := by
  let noted : Link σ :=
    { link with journal := link.journal ++ [.session (sessionOptions connection)] }
  obtain ⟨count, earlier, start, events, result, final, bound, abandoned, trial, ran⟩ :=
    run_transaction server writes statements server.patience { noted with state := opened }
  refine ⟨count, earlier, start, events, result, final, bound, abandoned, trial, ?_⟩
  rw [run_execute_eq server connection writes some_, run_session server connection _ connected]
  have asked := run_ask_ok noted opening
  unfold inSession
  rw [run_bind_ok (run_note _ _), run_bind_ok asked, run_endingWith_note, ran]
  simp [noted]

end

end

end GraphGateway.Store
