import GraphGateway.Proofs.Outcome
import GraphGateway.Proofs.Statement.Tally
import GraphGateway.Proofs.Store.Trial
import GraphGateway.Service.Response
import GraphGateway.Store.Script

/-!
All or nothing.  The statements of a request are committed together, once every one of them ran and
its rows were accepted, or none of them is.  Where matches are required, rows are accepted if every
path of their statement has a match, so that a request whose entries do not all match is undone and
answered with the first path that has none.
-/
namespace GraphGateway.Service

open Request (Operation RootField)
open Settings (Connection)
open Statement (Basis Compiled Report RowsReport matchedIn matchedIn_iff)
open Store

section

variable {σ : Type} (server : Server σ)

/-- Statements were answered with rows one after another, whether or not the rows are accepted. -/
inductive Answered : σ → List Compiled → List Value → σ → Prop where
  | nil (state : σ) : Answered state [] [] state
  | cons {state next final : σ} {statement : Compiled} {rest : List Compiled} {rows : Value}
      {others : List Value}
      (ran : server.run statement.text statement.parameters state = (.ok rows, next))
      (answered : Answered next rest others final) :
      Answered state (statement :: rest) (rows :: others) final

/-- What a request is read as once the type system accepts it and its variables have values. -/
structure Served.Reads (served : Served) (document : Graphql.Document) (sent : Entries Value)
    (wanted : Option String) (operation : Operation) : Prop where
  servable : served.types.isServable = true
  valid : document.isValid served.types = true
  brief : document.isOverlong = false
  read : ∃ bindings, served.variablesFor? document sent wanted = some bindings ∧
    served.surface.read document bindings wanted = .ok operation

/-- A document that is read where it has no variables. -/
theorem Served.Reads.of_undeclared {served : Served} {document : Graphql.Document}
    {sent : Entries Value} {wanted : Option String} {operation : Operation}
    (servable : served.types.isServable = true)
    (fits : document.isValid served.types = true ∧ document.isOverlong = false ∧
      (served.variablesFor? document sent wanted).map List.isEmpty = some true)
    (read : served.surface.read document [] wanted = .ok operation) :
    served.Reads document sent wanted operation := by
  obtain ⟨valid, brief, undeclared⟩ := fits
  obtain ⟨bindings, found, none_⟩ := Option.map_eq_some_iff.mp undeclared
  rw [List.isEmpty_iff] at none_
  subst none_
  exact ⟨servable, valid, brief, [], found, read⟩

/-- The first path without a match among the paths of the first statement that has such a path. -/
def firstUnmatched (statements : List Compiled) (reports : List (List Report)) : Option String :=
  (statements.zip reports).findSome? fun pair =>
    pair.1.paths.find? fun path => !matchedIn pair.2 path

/-- The paths of every statement all have a match in its reports. -/
def AllMatched (statements : List Compiled) (reports : List (List Report)) : Prop :=
  ∀ pair ∈ statements.zip reports, ∀ path ∈ pair.1.paths,
    ∃ matched, 0 < matched ∧ (path, matched) ∈ pair.2

theorem firstUnmatched_eq_none_iff (statements : List Compiled) (reports : List (List Report)) :
    firstUnmatched statements reports = none ↔ AllMatched statements reports := by
  simp only [firstUnmatched, AllMatched, List.findSome?_eq_none_iff, List.find?_eq_none,
    Bool.not_eq_true, Bool.not_eq_false', matchedIn_iff]

theorem firstUnmatched_cons (statement : Compiled) (rest : List Compiled) (own : List Report)
    (others : List (List Report)) :
    firstUnmatched (statement :: rest) (own :: others) =
      (statement.paths.find? fun path => !matchedIn own path).or (firstUnmatched rest others) := by
  unfold firstUnmatched
  rw [List.zip_cons_cons, List.findSome?_cons]
  simp only
  cases statement.paths.find? fun path => !matchedIn own path <;> rfl

variable {server}

/-- A statement that was compiled where matches are required has no paths or requires its matches. -/
theorem requires_or_pathless {basis : Basis} {field : RootField} {statement : Compiled}
    (required : basis.features.requireMatch = true) (compiled : basis.compile field = .ok statement) :
    statement.requireMatch = true ∨ statement.paths = [] := by
  obtain ⟨plan, -, done⟩ := Outcome.bind_ok_iff.mp compiled
  cases Outcome.pure_ok_iff.mp done
  cases plan with
  | list label filter fields => exact .inr rfl
  | lookup id variants => exact .inr rfl
  | create nodes response => exact .inl required
  | update label filter assignments entries connections response => exact .inl required

/-- Each statement of a request comes from one of its root fields. -/
theorem compileAll_mem {served : Served} {fields : List RootField} {statements : Entries Compiled}
    (compiled : served.compileAll fields = .ok statements) :
    ∀ entry ∈ statements, ∃ field, served.basis.compile field = .ok entry.2 := by
  refine Outcome.foldlM_ok_induct
    (fun statements => ∀ entry ∈ statements, ∃ field, served.basis.compile field = .ok entry.2)
    compiled (fun entry member => absurd member List.not_mem_nil) ?_
  intro field _ before after all step
  split at step
  · cases Outcome.pure_ok_iff.mp step
    exact all
  · obtain ⟨statement, done, put⟩ := Outcome.bind_ok_iff.mp step
    cases Outcome.pure_ok_iff.mp put
    intro entry member
    rcases Entries.mem_put member with rfl | old
    · exact ⟨field, done⟩
    · exact all entry old

/-- Rows that report nothing but paths of their statement are refused for the first of its paths
without a match, or accepted. -/
theorem verify_compiled {basis : Basis} {field : RootField} {statement : Compiled} {rows : Value}
    {reports : List Report} (required : basis.features.requireMatch = true)
    (compiled : basis.compile field = .ok statement) (reported : RowsReport rows reports)
    (known : ∀ report ∈ reports, report.1 ∈ statement.paths) :
    statement.verify rows =
      match statement.paths.find? fun path => !matchedIn reports path with
      | some path => .error (.fault (.notFound (.text path) none))
      | none => .ok () := by
  cases requires : statement.requireMatch with
  | true => exact Statement.verify_eq requires reported known
  | false =>
      rcases requires_or_pathless required compiled with impossible | pathless
      · rw [requires] at impossible
        cases impossible
      · unfold Compiled.verify
        rw [requires, pathless]
        rfl

section

variable {basis : Basis} {start final : σ} {statements : List Compiled} {rows : List Value}
  {reports : List (List Report)}

/-- Answered statements pass if all their paths have matches. -/
theorem passed_of_answered (required : basis.features.requireMatch = true)
    (compiled : ∀ statement ∈ statements, ∃ field, basis.compile field = .ok statement)
    (answered : Answered server start statements rows final)
    (reported : List.Forall₂ RowsReport rows reports)
    (known : List.Forall₂ (fun (statement : Compiled) (reports : List Report) =>
      ∀ report ∈ reports, report.1 ∈ statement.paths) statements reports)
    (complete : firstUnmatched statements reports = none) :
    Passed server start statements rows final := by
  induction answered generalizing reports with
  | nil state => exact .nil state
  | @cons state next final statement rest rows others ran answered ih =>
      obtain ⟨own, later, ownReported, laterReported, rfl⟩ := List.forall₂_cons_left_iff.mp reported
      obtain ⟨ownKnown, laterKnown⟩ := List.forall₂_cons.mp known
      obtain ⟨field, made⟩ := compiled statement (List.mem_cons_self ..)
      have verified := verify_compiled required made ownReported ownKnown
      rw [firstUnmatched_cons, Option.or_eq_none_iff] at complete
      rw [complete.1] at verified
      exact .cons ran verified (ih (fun other member => compiled other (List.mem_cons_of_mem _ member))
        laterReported laterKnown complete.2)

/-- Of answered statements the first that has a path without a match stops the trial, for the first
such path. -/
theorem stopped_of_answered {path : String} (required : basis.features.requireMatch = true)
    (compiled : ∀ statement ∈ statements, ∃ field, basis.compile field = .ok statement)
    (answered : Answered server start statements rows final)
    (reported : List.Forall₂ RowsReport rows reports)
    (known : List.Forall₂ (fun (statement : Compiled) (reports : List Report) =>
      ∀ report ∈ reports, report.1 ∈ statement.paths) statements reports)
    (lacking : firstUnmatched statements reports = some path) :
    ∃ before statement rest passed middle next,
      statements = before ++ statement :: rest ∧ Passed server start before passed middle ∧
      Stopped server statement middle (.request (.fault (.notFound (.text path) none))) next := by
  induction answered generalizing reports with
  | nil state =>
      cases lacking
  | @cons state next final statement rest rows others ran answered ih =>
      obtain ⟨own, later, ownReported, laterReported, rfl⟩ := List.forall₂_cons_left_iff.mp reported
      obtain ⟨ownKnown, laterKnown⟩ := List.forall₂_cons.mp known
      obtain ⟨field, made⟩ := compiled statement (List.mem_cons_self ..)
      have verified := verify_compiled required made ownReported ownKnown
      rw [firstUnmatched_cons, Option.or_eq_some_iff] at lacking
      rcases lacking with here | ⟨none_, there⟩
      · rw [here] at verified
        exact ⟨[], statement, rest, [], state, next, rfl, .nil state, .unverified ran verified⟩
      · rw [none_] at verified
        obtain ⟨before, last, left, passed, middle, after, order, done, stop⟩ :=
          ih (fun other member => compiled other (List.mem_cons_of_mem _ member))
            laterReported laterKnown there
        exact ⟨statement :: before, last, left, rows :: passed, middle, after, by rw [order]; rfl,
          .cons ran verified done, stop⟩

end

/-- What is settled without the database leaves the link as it is. -/
theorem run_settled {α β : Type} (result : Except Request.Failure α) (told : α → β)
    (link : Link σ) :
    ((settled result >>= fun value => pure (told value) : Access σ β).run link).2 = link := by
  cases result <;> rfl

/-- A request whose variables have values is answered by running what it is read as, if it is read. -/
theorem run_respond_bound {served : Served} {executor : Executor σ} {document : Graphql.Document}
    {sent : Entries Value} {wanted : Option String} {bindings : Entries Value}
    (servable : served.types.isServable = true) (valid : document.isValid served.types = true)
    (brief : document.isOverlong = false)
    (values : served.variablesFor? document sent wanted = some bindings) (state : σ) :
    (served.respond executor document sent wanted).run state =
      match served.surface.read document bindings wanted with
      | .error failure => (Served.rejection (.request failure) : Course σ Response).run state
      | .ok operation =>
          match (served.run executor operation).run state with
          | (.ok response, after) => (.ok response, after)
          | (.error interruption, after) =>
              (Served.rejection interruption : Course σ Response).run after := by
  unfold Served.respond
  rw [servable, valid, brief, values]
  change (tryCatch (settled (served.surface.read document bindings wanted) >>= fun operation =>
    served.run executor operation) Served.rejection : Course σ Response).run state = _
  rw [interruptible_tryCatch, interruptible_bind]
  cases served.surface.read document bindings wanted with
  | error failure => rfl
  | ok operation =>
      have settling : (settled (.ok operation) : Course σ Operation).run state =
          (.ok operation, state) := rfl
      rw [settling]
      dsimp only
      rcases (served.run executor operation).run state with ⟨result, after⟩
      cases result <;> rfl

/-- A request that is accepted is answered by running what it is read as. -/
theorem run_respond {served : Served} {executor : Executor σ} {document : Graphql.Document}
    {sent : Entries Value} {wanted : Option String} {operation : Operation}
    (reads : served.Reads document sent wanted operation) (state : σ) :
    (served.respond executor document sent wanted).run state =
      match (served.run executor operation).run state with
      | (.ok response, after) => (.ok response, after)
      | (.error interruption, after) =>
          (Served.rejection interruption : Course σ Response).run after := by
  obtain ⟨bindings, values, read⟩ := reads.read
  rw [run_respond_bound reads.servable reads.valid reads.brief values, read]

/-- Rejecting a request leaves the link as it is. -/
theorem run_rejection (interruption : Interruption) (link : Link σ) :
    ((Served.rejection interruption : Access σ Response).run link).2 = link := by
  cases interruption with
  | request failure => cases failure <;> rfl
  | server fault => rfl
  | store fault => rfl
  | noDriver => rfl

/-- The link is left as the operation left it. -/
theorem run_respond_link {served : Served} {executor : Executor (Link σ)}
    {document : Graphql.Document} {sent : Entries Value} {wanted : Option String}
    {operation : Operation} (reads : served.Reads document sent wanted operation)
    (link : Link σ) :
    ((served.respond executor document sent wanted).run link).2 =
      ((served.run executor operation).run link).2 := by
  rw [run_respond reads]
  rcases (served.run executor operation).run link with ⟨result, after⟩
  cases result with
  | error interruption => exact run_rejection interruption after
  | ok response => rfl

/-- Whatever is made of the rows, the link is left as the executor left it. -/
theorem run_answered {served : Served} {executor : Executor (Link σ)} {operation : Operation}
    {statements : Entries Compiled} {rows : List Value} {link after : Link σ}
    (compiled : served.compileAll operation.fields = .ok statements)
    (executed : (executor (statements.map Prod.snd) operation.isMutation).run link =
      (.ok rows, after)) :
    ((served.run executor operation).run link).2 = after := by
  unfold Served.run
  rw [compiled]
  change ((executor (statements.map Prod.snd) operation.isMutation >>= fun rows => _ :
    Access σ Response).run link).2 = _
  rw [Access.run_bind_ok executed]
  exact run_settled (served.answerAll statements (Entries.ofPairs (statements.keys.zip rows))
    operation.fields) (fun told => (⟨some told.1, told.2⟩ : Response)) after

theorem run_interrupted {served : Served} {executor : Executor (Link σ)} {operation : Operation}
    {statements : Entries Compiled} {interruption : Interruption} {link after : Link σ}
    (compiled : served.compileAll operation.fields = .ok statements)
    (executed : (executor (statements.map Prod.snd) operation.isMutation).run link =
      (.error interruption, after)) :
    (served.run executor operation).run link = (.error interruption, after) := by
  unfold Served.run
  rw [compiled]
  change (executor (statements.map Prod.snd) operation.isMutation >>= fun rows => _ :
    Access σ Response).run link = _
  rw [Access.run_bind_error executed]

variable (server) (connection : Connection)

/-- Over a session that opened, statements are committed together or not at all: the trial that
decides passes all of them, or the first that stops it is the last that was run. -/
theorem run_execute_together {statements : List Compiled} (writes : Bool) {link : Link σ}
    (some_ : statements ≠ []) {driver : Nat} (connected : link.driver = some driver) {opened : σ}
    (opening : server.openSession driver link.state = (.ok (), opened)) :
    ∃ count earlier start events result final,
      (execute server connection statements writes).run link = (result, { link with
        state := final
        journal := link.journal ++
          .session (sessionOptions connection) :: (earlier ++ events ++ [.sessionClosed]) }) ∧
      count ≤ server.patience ∧
      Abandoned server writes statements count opened earlier start ∧
      Event.committed ∉ earlier ∧
      (Event.committed ∈ events ↔
        ∃ rows last, Passed server start statements rows last ∧ (server.commit last).1 = .ok ()) ∧
      (∀ rows, result = .ok rows ↔
        ∃ last, Passed server start statements rows last ∧ (server.commit last).1 = .ok ()) ∧
      (∀ rows, result = .ok rows → rows.length = statements.length) ∧
      ∀ before statement rest rows middle interruption next,
        statements = before ++ statement :: rest →
        Passed server start before rows middle →
        Stopped server statement middle interruption next →
        result = .error interruption ∧
          events = .began writes :: ((before ++ [statement]).map ranEvent ++ [.rolledBack]) := by
  obtain ⟨count, earlier, start, events, result, final, bound, abandoned, trial, ran⟩ :=
    run_execute_of_opened server connection writes some_ connected opening
  refine ⟨count, earlier, start, events, result, final, ran, bound, abandoned,
    abandoned.committed_not_mem, ?commits, trial.rows_iff, ?length, ?stops⟩
  case commits =>
    rw [trial.committed_mem_iff]
    exact exists_congr trial.rows_iff
  case length =>
    intro rows same
    obtain ⟨last, passed, -⟩ := (trial.rows_iff rows).mp same
    exact passed.length_eq
  case stops =>
    intro before statement rest rows middle interruption next order passed stop
    exact trial.eq_of_stopped order passed stop

section

variable {served : Served} {document : Graphql.Document} {sent : Entries Value}
  {wanted : Option String} {operation : Operation} {statements : Entries Compiled} {link : Link σ}
  {driver : Nat} {opened final : σ} {rows : List Value} {reports : List (List Report)}

/-- A request is committed if all its statements pass. -/
theorem run_respond_passed (reads : served.Reads document sent wanted operation)
    (compiled : served.compileAll operation.fields = .ok statements) (some_ : statements ≠ [])
    (connected : link.driver = some driver)
    (opening : server.openSession driver link.state = (.ok (), opened))
    (passed : Passed server opened (statements.map Prod.snd) rows final)
    (accepted : (server.commit final).1 = .ok ()) :
    ∃ response after events,
      (served.respond (execute server connection) document sent wanted : Access σ Response).run
        link = (response, after) ∧
      after.journal = link.journal ++ events ∧ Event.committed ∈ events := by
  obtain ⟨count, earlier, start, events, result, state, -, abandoned, trial, ran⟩ :=
    run_execute_of_opened server connection operation.isMutation
      (by simpa using some_ : statements.map Prod.snd ≠ []) connected opening
  obtain ⟨rfl, rfl⟩ := abandoned.eq_none fun others interruption last failed => by
    have impossible := (failed.rows_iff rows).mpr ⟨final, passed, accepted⟩
    cases impossible
  have answeredRows := (trial.rows_iff rows).mpr ⟨final, passed, accepted⟩
  have commits := trial.committed_mem_iff.mpr ⟨rows, answeredRows⟩
  rw [answeredRows] at ran
  have left : ((served.respond (execute server connection) document sent wanted :
      Access σ Response).run link).2 = _ := run_respond_link reads link
  rw [run_answered compiled ran] at left
  rcases responded : (served.respond (execute server connection) document sent wanted :
    Access σ Response).run link with ⟨response, after⟩
  rw [responded] at left
  cases left
  refine ⟨response, _, _, rfl, rfl, ?_⟩
  simpa using commits

/-- A request is undone and answered with a path if a statement stops over it, after those before it
passed. -/
theorem run_respond_stopped (reads : served.Reads document sent wanted operation)
    (compiled : served.compileAll operation.fields = .ok statements) (some_ : statements ≠ [])
    (connected : link.driver = some driver)
    (opening : server.openSession driver link.state = (.ok (), opened))
    {before rest : List Compiled} {statement : Compiled} {middle next : σ} {path : String}
    (order : statements.map Prod.snd = before ++ statement :: rest)
    (passed : Passed server opened before rows middle)
    (stop : Stopped server statement middle (.request (.fault (.notFound (.text path) none))) next) :
    ∃ after events,
      (served.respond (execute server connection) document sent wanted : Access σ Response).run
        link = (.ok { data := none, errors := [.fault (.notFound (.text path) none) none] }, after) ∧
      after.journal = link.journal ++ events ∧ Event.committed ∉ events := by
  obtain ⟨count, earlier, start, events, result, state, -, abandoned, trial, ran⟩ :=
    run_execute_of_opened server connection operation.isMutation
      (by simpa using some_ : statements.map Prod.snd ≠ []) connected opening
  obtain ⟨rfl, rfl⟩ := abandoned.eq_none fun others interruption last failed => by
    have same := (failed.eq_of_stopped order passed stop).1
    cases same
    rfl
  have stopped := (trial.eq_of_stopped order passed stop).1
  have uncommitted : Event.committed ∉ events := by
    rw [trial.committed_mem_iff, stopped]
    rintro ⟨rows, impossible⟩
    cases impossible
  rw [stopped] at ran
  have responded : (served.respond (execute server connection) document sent wanted :
      Access σ Response).run link = _ := run_respond reads link
  rw [run_interrupted compiled ran] at responded
  refine ⟨_, _, responded, rfl, ?_⟩
  simpa using uncommitted

/-- A request that requires matches and whose statements are all answered is committed exactly if all
its paths have some, and is answered with the first path that has none. -/
theorem run_respond_together (required : served.features.requireMatch = true)
    (reads : served.Reads document sent wanted operation)
    (compiled : served.compileAll operation.fields = .ok statements) (some_ : statements ≠ [])
    (connected : link.driver = some driver)
    (opening : server.openSession driver link.state = (.ok (), opened))
    (answered : Answered server opened (statements.map Prod.snd) rows final)
    (accepted : (server.commit final).1 = .ok ()) (reported : List.Forall₂ RowsReport rows reports)
    (known : List.Forall₂ (fun (statement : Compiled) (reports : List Report) =>
      ∀ report ∈ reports, report.1 ∈ statement.paths) (statements.map Prod.snd) reports) :
    ∃ response after events,
      (served.respond (execute server connection) document sent wanted : Access σ Response).run
        link = (response, after) ∧
      after.journal = link.journal ++ events ∧
      (Event.committed ∈ events ↔ AllMatched (statements.map Prod.snd) reports) ∧
      (¬ AllMatched (statements.map Prod.snd) reports → ∃ path,
        firstUnmatched (statements.map Prod.snd) reports = some path ∧
        response = .ok
          { data := none, errors := [.fault (.notFound (.text path) none) none] }) := by
  have made : ∀ statement ∈ statements.map Prod.snd,
      ∃ field, served.basis.compile field = .ok statement := by
    intro statement member
    obtain ⟨entry, entered, rfl⟩ := List.mem_map.mp member
    exact compileAll_mem compiled entry entered
  cases first : firstUnmatched (statements.map Prod.snd) reports with
  | none =>
      have complete := (firstUnmatched_eq_none_iff ..).mp first
      have passed := passed_of_answered required made answered reported known first
      obtain ⟨response, after, events, ran, journal, commits⟩ := run_respond_passed server connection
        reads compiled some_ connected opening passed accepted
      exact ⟨response, after, events, ran, journal, iff_of_true commits complete,
        fun lacking => absurd complete lacking⟩
  | some path =>
      have incomplete : ¬ AllMatched (statements.map Prod.snd) reports := by
        rw [← firstUnmatched_eq_none_iff, first]
        exact Option.some_ne_none path
      obtain ⟨before, statement, rest, passed, middle, next, order, done, stop⟩ :=
        stopped_of_answered required made answered reported known first
      obtain ⟨after, events, ran, journal, uncommitted⟩ := run_respond_stopped server connection
        reads compiled some_ connected opening order done stop
      exact ⟨_, after, events, ran, journal, iff_of_false uncommitted incomplete,
        fun _ => ⟨path, rfl, rfl⟩⟩

end

/-- Statements are committed together or not at all, and a request that requires matches is
committed exactly if all its paths have some.

The first part is about any statements over a link, the second about a request to a served schema
that is handled by a server which answers all its statements.  In both the journal tells what the
server got to see. -/
theorem committed_all_or_none :
    (∀ (statements : List Compiled) (writes : Bool) (link : Link σ), statements ≠ [] →
      (link.driver = none →
        (execute server connection statements writes).run link =
          (.error (.store .notConnected), link)) ∧
      ∀ driver, link.driver = some driver →
        (∀ fault state, server.openSession driver link.state = (.error fault, state) →
          (execute server connection statements writes).run link = (.error (.server fault),
            { link with
              state, journal := link.journal ++ [.session (sessionOptions connection)] })) ∧
        ∀ opened, server.openSession driver link.state = (.ok (), opened) →
          ∃ count earlier start events result final,
            (execute server connection statements writes).run link = (result, { link with
              state := final
              journal := link.journal ++
                .session (sessionOptions connection) :: (earlier ++ events ++ [.sessionClosed]) }) ∧
            count ≤ server.patience ∧
            Abandoned server writes statements count opened earlier start ∧
            Event.committed ∉ earlier ∧
            (Event.committed ∈ events ↔
              ∃ rows last, Passed server start statements rows last ∧
                (server.commit last).1 = .ok ()) ∧
            (∀ rows, result = .ok rows ↔
              ∃ last, Passed server start statements rows last ∧
                (server.commit last).1 = .ok ()) ∧
            (∀ rows, result = .ok rows → rows.length = statements.length) ∧
            ∀ before statement rest rows middle interruption next,
              statements = before ++ statement :: rest →
              Passed server start before rows middle →
              Stopped server statement middle interruption next →
              result = .error interruption ∧
                events = .began writes ::
                  ((before ++ [statement]).map ranEvent ++ [.rolledBack])) ∧
    ∀ (served : Served) (document : Graphql.Document) (sent : Entries Value)
      (wanted : Option String) (operation : Operation) (statements : Entries Compiled)
      (link : Link σ) (driver : Nat) (opened final : σ) (rows : List Value)
      (reports : List (List Report)),
      served.features.requireMatch = true → served.Reads document sent wanted operation →
      served.compileAll operation.fields = .ok statements → statements ≠ [] →
      link.driver = some driver → server.openSession driver link.state = (.ok (), opened) →
      Answered server opened (statements.map Prod.snd) rows final →
      (server.commit final).1 = .ok () → List.Forall₂ RowsReport rows reports →
      List.Forall₂ (fun (statement : Compiled) (reports : List Report) =>
        ∀ report ∈ reports, report.1 ∈ statement.paths) (statements.map Prod.snd) reports →
      ∃ response after events,
        (served.respond (execute server connection) document sent wanted : Access σ Response).run
          link = (response, after) ∧
        after.journal = link.journal ++ events ∧
        (Event.committed ∈ events ↔ AllMatched (statements.map Prod.snd) reports) ∧
        (¬ AllMatched (statements.map Prod.snd) reports → ∃ path,
          firstUnmatched (statements.map Prod.snd) reports = some path ∧
          response = .ok
            { data := none, errors := [.fault (.notFound (.text path) none) none] }) := by
  constructor
  · intro statements writes link some_
    constructor
    · exact run_execute_of_unconnected server connection writes some_
    · intro driver connected
      constructor
      · intro fault state unopened
        exact run_execute_of_unopened server connection writes some_ connected unopened
      · intro opened opening
        exact run_execute_together server connection writes some_ connected opening
  · intro served document sent wanted operation statements link driver opened final rows reports
      required reads compiled some_ connected opening answered accepted reported known
    exact run_respond_together server connection required reads compiled some_ connected opening
      answered accepted reported known

end

/-- Movies with their actors. -/
def castingModel : Schema.Model where
  nodes :=
    [{ name := "Movie"
       fields := [{ name := "title", type := { name := "String" }, stored := "title" }]
       relationships :=
        [{ name := "actors", type := { name := "Person", isList := true }, relatedType := "Person"
           direction := .incoming, label := "ACTED_IN" }] },
     { name := "Person"
       fields := [{ name := "name", type := { name := "String" }, stored := "name" }] }]

def casting : Served :=
  (Served.ofModel castingModel { requireMatch := true } []).toOption.get (by decide +kernel)

/-- A request for a movie with the actors of one name. -/
def castingDocument : Graphql.Document :=
  [.operation
    { kind := .mutation, name := none, declarations := [], directives := []
      selections :=
        [.field none "createMovies"
          [("input", .list [.object [("actors", .object
            [("connect", .list [.object [("where", .object [("name", .string "B" false)])]])])]])] []
          [.field none "movies" [] [] [.field none "title" [] [] []]]] }]

def castingOperation : Operation :=
  (casting.surface.read castingDocument [] none).toOption.get (by decide +kernel)

def castingStatements : Entries Compiled :=
  (casting.compileAll castingOperation.fields).toOption.get (by decide +kernel)

/-- The path of the entry that connects the actors. -/
def castingPath : String := "createMovies[0].actors.connect[0]"

/-- Rows that report no actor of the name. -/
def castingRows : Value :=
  .list [.object [("matches",
    .list [.object [("path", .text castingPath), ("matched", .int 0)]])]]

/-- A server that refuses a text. -/
def refusing : Script := { refused := ["DROP"] }

def refusedPair : List Compiled := [{ text := "CREATE (a)" }, { text := "DROP" }]

theorem casting_reads : casting.Reads castingDocument [] none castingOperation :=
  .of_undeclared (by decide +kernel) (by decide +kernel) (Outcome.eq_ok_of_isSome _)

theorem castingStatements_alone :
    ∃ entry, castingStatements = [entry] ∧ entry.2.paths = [castingPath] := by
  have paths : castingStatements.map (fun entry => entry.2.paths) = [[castingPath]] := by
    decide +kernel
  exact List.map_eq_singleton_iff.mp paths

theorem casting_answered : Answered Server.scripted { rows := [castingRows] }
    (castingStatements.map Prod.snd) [castingRows] { } := by
  obtain ⟨entry, alone, -⟩ := castingStatements_alone
  rw [alone]
  exact .cons rfl (.nil _)

theorem casting_known : List.Forall₂ (fun (statement : Compiled) (reports : List Report) =>
    ∀ report ∈ reports, report.1 ∈ statement.paths)
    (castingStatements.map Prod.snd) [[(castingPath, 0)]] := by
  obtain ⟨entry, alone, paths⟩ := castingStatements_alone
  rw [alone]
  refine .cons (fun report member => ?_) .nil
  cases List.mem_singleton.mp member
  rw [paths]
  exact List.mem_singleton_self _

theorem casting_reported : RowsReport castingRows [(castingPath, 0)] :=
  ⟨_, [[(castingPath, 0)]], rfl, .cons ⟨_, _, rfl, rfl, .cons ⟨_, rfl, rfl, rfl⟩ .nil⟩ .nil, rfl⟩

theorem committed_all_or_none_refused_and_unmatched :
    (∃ result after, (execute Server.scripted {} refusedPair true).run
        { state := refusing, driver := some 0 } = (result, after) ∧
      result = .error (.server (.failure "refused")) ∧
      after.journal = [.session (sessionOptions {}), .began true, .ran "CREATE (a)" (some []),
        .ran "DROP" (some []), .rolledBack, .sessionClosed]) ∧
    ∃ response after events,
      (casting.respond (execute Server.scripted {}) castingDocument [] none : Access Script Response).run
        { state := { rows := [castingRows] }, driver := some 0 } = (response, after) ∧
      after.journal = events ∧ Event.committed ∉ events ∧
      response = .ok { errors := [.fault (.notFound (.text castingPath) none) none] } := by
  obtain ⟨runs, requests⟩ := committed_all_or_none Server.scripted {}
  constructor
  · obtain ⟨count, earlier, start, events, result, final, executed, bound, abandoned, -, -, -, -,
        stops⟩ :=
      ((runs refusedPair true { state := refusing, driver := some 0 }
        (List.cons_ne_nil _ _)).2 0 rfl).2 refusing rfl
    cases abandoned with
    | more trial retried abandoned => exact absurd bound (Nat.not_succ_le_zero _)
    | none state =>
        have ran : Server.scripted.run "CREATE (a)" [] refusing = (.ok (.list []), refusing) := by
          have spared : refusing.refuses "CREATE (a)" = false := by decide +kernel
          simp only [Server.scripted, Script.run, spared]
          rfl
        have refused : Server.scripted.run "DROP" [] refusing =
            (.error (.failure "refused"), refusing) := by
          have refuses : refusing.refuses "DROP" = true := by decide +kernel
          simp only [Server.scripted, Script.run, refuses]
          rfl
        obtain ⟨same, journal⟩ := stops [{ text := "CREATE (a)" }] { text := "DROP" } []
          [.list []] refusing (.server (.failure "refused")) refusing rfl
          (.cons ran rfl (.nil _)) (.refused refused)
        rw [same, journal] at executed
        exact ⟨_, _, executed, rfl, rfl⟩
  · obtain ⟨entry, alone, -⟩ := castingStatements_alone
    obtain ⟨response, after, events, ran, journal, commits, lacking⟩ :=
      requests casting castingDocument [] none castingOperation castingStatements
        { state := { rows := [castingRows] }, driver := some 0 } 0 { rows := [castingRows] } { }
        [castingRows] [[(castingPath, 0)]] (by decide +kernel) casting_reads
        (Outcome.eq_ok_of_isSome _) (alone ▸ List.cons_ne_nil _ _) rfl rfl casting_answered rfl
        (.cons casting_reported .nil) casting_known
    have same : firstUnmatched (castingStatements.map Prod.snd) [[(castingPath, 0)]] =
        some castingPath := by decide +kernel
    have unmatched : ¬ AllMatched (castingStatements.map Prod.snd) [[(castingPath, 0)]] := by
      rw [← firstUnmatched_eq_none_iff, same]
      exact Option.some_ne_none castingPath
    obtain ⟨path, first, responded⟩ := lacking unmatched
    rw [same] at first
    cases first
    exact ⟨response, after, events, ran, journal, mt commits.mp unmatched, responded⟩

end GraphGateway.Service
