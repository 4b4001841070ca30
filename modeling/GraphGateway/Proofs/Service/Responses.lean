import GraphGateway.Proofs.Graphql.Names
import GraphGateway.Proofs.Service.Answers
import GraphGateway.Proofs.Service.PageChecks
import GraphGateway.Proofs.Service.Pipeline
import GraphGateway.Proofs.Statement.Supplied
import GraphGateway.Proofs.Statement.Untold

/-!
Responses to requests.  A request whose executor does its part is refused before the executor is called,
or answered after one call.  What is neither ends in an exception: where the type system bars every
request, where an argument or a condition has no value, where a cursor nests too deep, and where fields
hide the keys that the statements need.
-/
namespace GraphGateway.Service

open Cypher Request Statement
open Graphql (Document)
open Outcome (Only)
open Store (Interruption)

/-- Rows that may come for a root field: such as its statement may answer, with positions on the edges,
and with reports of matches. -/
def Served.MayBring (served : Served) (field : RootField) (own : Value) : Prop :=
  ∀ plan, served.basis.plan field = .ok plan →
    (∃ stored, Clause.MayAnswer stored (plan.emit served.features {}).1 own ∧
      HasPositions stored served.features) ∧
    ∃ reports, RowsReport own reports

/-- An executor that interrupts no operation and brings rows for each of its statements. -/
def Served.Suffices {σ : Type} (served : Served) (executor : Executor σ) (operation : Operation) :
    Prop :=
  ∀ statements state, served.compileEach operation.fields = .ok statements →
    ∃ rows after, (executor statements operation.isMutation).run state = (.ok rows, after) ∧
      List.Forall₂ served.MayBring (asking operation.fields) rows

/-- A failure of a request that no client is told of. -/
inductive Served.Escapes (served : Served) (document : Document) (sent : Entries Value)
    (wanted : Option String) : Failure → Prop
  | unservable (barred : served.types.isServable = false) :
      served.Escapes document sent wanted .unservable
  | unmet {operation : Graphql.Operation} {bindings : Entries Value}
      (valid : document.isValid served.types = true)
      (found : document.operation? wanted = some operation)
      (given : served.variablesFor? document sent wanted = some bindings)
      (missing : operation.coerces served.types document bindings = false) :
      served.Escapes document sent wanted .argument
  | endless {operation : Operation} {field : RootField} {request : PageRequest}
      {rejection : Paging.CursorRejection} (reads : served.Reads document sent wanted operation)
      (member : field ∈ operation.fields) (asked : request ∈ field.pages served.model)
      (refused : served.codec.decode request.after (.text request.issuer) = .error rejection)
      (deep : rejection.flaw = .endless) :
      served.Escapes document sent wanted .endless

/-- A failure that a client is told of, or one that escapes. -/
def Served.Accounts (served : Served) (document : Document) (sent : Entries Value)
    (wanted : Option String) (failure : Failure) : Prop :=
  (∃ fault, failure = .fault fault) ∨ served.Escapes document sent wanted failure

section

variable {schema : Document} {features : Settings.Features} {spareKey : List UInt8}
  {served : Served} {document : Document} {sent : Entries Value} {wanted : Option String}
  {operation : Operation}

/-- What is not read of a valid request is refused, or lacks an argument or a condition. -/
theorem Served.read_accounts (made : Served.ofDocument schema features spareKey = .ok served)
    (servable : served.types.isServable = true) (valid : document.isValid served.types = true)
    {bindings : Entries Value} (given : served.variablesFor? document sent wanted = some bindings) :
    Only (served.Accounts document sent wanted)
      (served.surface.read document bindings wanted) := by
  intro failure failed
  unfold Surface.read at failed
  split at failed
  · next original found =>
    have readable := Served.isReadable made servable valid found given
    cases (operation_answerable readable).only failure failed with
    | unmet unmet =>
        obtain ⟨rfl, missing⟩ := unmet
        exact .inr (.unmet valid found given missing)
    | fault fault => exact .inl ⟨fault, rfl⟩
  · cases failed
    exact .inl ⟨_, rfl⟩

/-- What a valid request is read as compiles, or is refused, or has a cursor that nests too deep. -/
theorem Served.compileEach_accounts
    (made : Served.ofDocument schema features spareKey = .ok served)
    (reads : served.Reads document sent wanted operation) :
    Only (served.Accounts document sent wanted) (served.compileEach operation.fields) := by
  obtain ⟨grown, answerable⟩ := reads.isAnswerable made
  refine .mapM fun field asked => ?_
  have member := (mem_asking.mp asked).1
  have explained : Only (IsExplained served.basis field) (served.basis.plan field) :=
    plan_explained grown (answerable field member).fits (answerable field member).suits
  refine .bind (explained.weaken fun failure => ?_) fun _ _ => .ok _
  rintro (⟨request, asked, refuses⟩ | told)
  · cases refuses with
    | negative => exact .inl ⟨_, rfl⟩
    | tooLarge => exact .inl ⟨_, rfl⟩
    | @cursor rejection given refused =>
        by_cases deep : rejection.flaw = .endless
        · right
          unfold Failure.ofRejection
          rw [deep]
          exact .endless reads member asked refused deep
        · exact .inl ⟨_, Paging.ofRejection_of_flaw deep⟩
  · exact .inl told

/-- Root fields are answered if each statement is from its own rows. -/
theorem exists_answers {codec : Paging.CursorCodec} {fields : List RootField}
    {statements : List Compiled} {rows : List Value}
    (one : (asking fields).length = statements.length)
    (each : List.Forall₂ (fun statement own =>
      (∃ value, answer codec own statement.shape = .ok value) ∧
        ∃ unmatched, statement.unmatched own = .ok unmatched) statements rows) :
    ∃ data errors, Answers codec fields statements rows data errors := by
  induction fields generalizing statements rows with
  | nil =>
      cases List.eq_nil_of_length_eq_zero one.symm
      cases each
      exact ⟨_, _, .nil []⟩
  | cons field rest ih =>
      cases asks : field.isTypename with
      | true =>
          cases field with
          | typename key typeName =>
              obtain ⟨data, errors, answers⟩ := ih one each
              exact ⟨_, _, .typename key typeName answers⟩
          | _ => cases asks
      | false =>
          rw [asking_cons asks] at one
          cases each with
          | nil => cases one
          | cons first others =>
              obtain ⟨⟨value, shaped⟩, unmatched, lacking⟩ := first
              obtain ⟨data, errors, answers⟩ := ih (Nat.succ.inj one) others
              exact ⟨_, _, .statement asks shaped lacking answers⟩

/-- Where no field hides a key, the rows that come are answered. -/
theorem Served.answers_brought (made : Served.ofDocument schema features spareKey = .ok served)
    (reads : served.Reads document sent wanted operation)
    (clear : ∀ field ∈ operation.fields, ¬ HidesKey field) {statements : List Compiled}
    {rows : List Value} (compiled : served.compileEach operation.fields = .ok statements)
    (brought : List.Forall₂ served.MayBring (asking operation.fields) rows) :
    ∃ data errors, Answers served.codec operation.fields statements rows data errors := by
  have related := compileEach_ok_iff.mp compiled
  refine exists_answers related.length_eq ?_
  have fromFields := Outcome.related_of_mem related fun field asked statement _ done =>
    And.intro (mem_asking.mp asked).1 done
  refine (Outcome.related_through fromFields.flip brought).imp ?_
  rintro statement own ⟨field, ⟨member, done⟩, brings⟩
  obtain ⟨plan, planned, same⟩ := Outcome.bind_ok_iff.mp done
  cases same
  obtain ⟨⟨stored, may, positions⟩, reports, reported⟩ := brings plan planned
  have plain : ¬ HidesTypeOf field := fun hides => clear field member hides.hidesKey
  obtain ⟨answered, there, -⟩ := (Served.gives_selected made reads member plain planned may).total
    ⟨clear field member, positions⟩
  obtain ⟨paths, lacking, -⟩ := unmatched_told (plan.compiled served.features _) reported
  exact ⟨⟨answered, there⟩, _, lacking⟩

/-- Answering fails for no reason that is told. -/
theorem Served.answerAll_untold (statements : Entries Compiled) (rows : Entries Value)
    (fields : List RootField) : Only IsUntold (served.answerAll statements rows fields) := by
  refine .foldlM fun sofar field _ => .bind ?_ fun _ _ => .ok _
  cases field with
  | typename key typeName => exact .ok _
  | _ =>
      simp only [Served.answerRoot]
      split
      · refine .bind (answer_untold _ _ _) fun value _ => ?_
        exact .bind (unmatched_untold _ _) fun _ _ => .ok _
      · exact .error trivial

variable {σ : Type}

/-- The ways for a request to end, each with the calls that the executor got and the state that is left
behind.  A request is refused or escapes before the executor is called; it is answered after one call,
or cannot be answered, as one of its fields hides a key. -/
inductive Served.Ends (served : Served) (text : String) (sent : Entries Value)
    (wanted : Option String) (state : σ) :
    Except Interruption Response → List Call → σ → Prop
  | refused (error : ClientError) :
      served.Ends text sent wanted state (.ok (.rejected error)) [] state
  | answered {document : Document} {operation : Operation} {statements : List Compiled}
      {data : Entries Value} {errors : List ClientError} {after : σ}
      (parsed : Document.ofText text = .ok document)
      (reads : served.Reads document sent wanted operation)
      (compiled : served.compileEach operation.fields = .ok statements)
      (keys : data.keys = operation.fields.map RootField.key) :
      served.Ends text sent wanted state (.ok { data := some data, errors })
        [⟨statements, operation.isMutation⟩] after
  | escaped {document : Document} {failure : Failure}
      (parsed : Document.ofText text = .ok document)
      (escapes : served.Escapes document sent wanted failure) :
      served.Ends text sent wanted state (.error (.request failure)) [] state
  | hidden {document : Document} {operation : Operation} {statements : List Compiled}
      {field : RootField} {failure : Failure} {after : σ}
      (parsed : Document.ofText text = .ok document)
      (reads : served.Reads document sent wanted operation)
      (compiled : served.compileEach operation.fields = .ok statements)
      (member : field ∈ operation.fields) (hides : HidesKey field) :
      served.Ends text sent wanted state (.error (.request failure))
        [⟨statements, operation.isMutation⟩] after

/-- A request that fails before its executor is called is refused or escapes. -/
theorem Served.Ends.of_accounts {text : String} (parsed : Document.ofText text = .ok document)
    {failure : Failure} (accounts : served.Accounts document sent wanted failure) (state : σ) :
    ∃ outcome, ((Served.rejection (.request failure) :
        Course (List Call × σ) Response).run ([], state)) = (outcome, [], state) ∧
      served.Ends text sent wanted state outcome [] state := by
  rcases accounts with ⟨fault, rfl⟩ | escapes
  · exact ⟨_, rfl, .refused _⟩
  · refine ⟨.error (.request failure), ?_, .escaped parsed escapes⟩
    cases escapes <;> rfl

/-- An untold failure is no rejection. -/
theorem run_rejection_untold {failure : Failure} (untold : IsUntold failure) (state : σ) :
    (Served.rejection (.request failure) : Course σ Response).run state =
      (.error (.request failure), state) := by
  cases failure with
  | fault fault => exact untold.elim
  | _ => rfl

/-- What a request is read as ends in one of the ways. -/
theorem Served.run_ends (made : Served.ofDocument schema features spareKey = .ok served)
    {text : String} (parsed : Document.ofText text = .ok document)
    (reads : served.Reads document sent wanted operation) {executor : Executor σ}
    (suffices_ : served.Suffices executor operation) (state : σ) :
    ∃ outcome calls after,
      (served.respond executor.observed document sent wanted).run ([], state) =
        (outcome, calls, after) ∧
      served.Ends text sent wanted state outcome calls after := by
  obtain ⟨bindings, -, read⟩ := reads.read
  obtain ⟨distinct, -⟩ := read_told read
  have ran : (served.run executor.observed operation).run ([], state) = _ :=
    run_eq executor.observed ([], state) distinct
  rw [run_respond reads, ran]
  cases compiled : served.compileEach operation.fields with
  | error failure =>
      have accounts := Served.compileEach_accounts made reads failure compiled
      obtain ⟨outcome, rejected, ends⟩ := Served.Ends.of_accounts parsed accounts state
      exact ⟨outcome, [], state, rejected, ends⟩
  | ok statements =>
      obtain ⟨rows, after, executed, brought⟩ := suffices_ statements state compiled
      have called : (executor.observed statements operation.isMutation).run ([], state) =
          (((executor statements operation.isMutation).run state).1,
            [⟨statements, operation.isMutation⟩],
            ((executor statements operation.isMutation).run state).2) := rfl
      dsimp only
      rw [called, executed]
      dsimp only
      cases answered : served.answerAll (((asking operation.fields).map RootField.key).zip statements)
          (((asking operation.fields).map RootField.key).zip rows) operation.fields with
      | ok told =>
          rcases told with ⟨data, errors⟩
          have keys := ((answerAll_iff distinct compiled rows).mp answered).keys
          exact ⟨_, _, _, rfl, .answered parsed reads compiled keys⟩
      | error failure =>
          have untold := Served.answerAll_untold _ _ _ failure answered
          refine ⟨_, _, _, run_rejection_untold untold _, ?_⟩
          by_contra ends
          have clear : ∀ field ∈ operation.fields, ¬ HidesKey field := fun field member hides =>
            ends (.hidden parsed reads compiled member hides)
          obtain ⟨data, errors, there⟩ := Served.answers_brought made reads clear compiled brought
          cases answered.symm.trans ((answerAll_iff distinct compiled rows).mpr there)

/-- Every request to a served schema ends in one of the ways.  Text that cannot be parsed, a document
that is not valid or takes too long to check, variables that do not suit it, and whatever a client can be
told to be wrong with the operation refuse the request before the executor is called.  If the executor
brings rows that its statements may answer, the request is answered after one call; only a type system
that bars every request, an argument or a condition without a value, a cursor that nests too deep, and
fields that hide keys of the statements make it end otherwise.  The limit that an interpreter's stack
sets to nesting is modelled for the payloads of cursors, but not for selections, which may nest as deep
as they like. -/
theorem Served.request_ends (made : Served.ofDocument schema features spareKey = .ok served)
    (text : String) (sent : Entries Value) (wanted : Option String) (executor : Executor σ)
    (state : σ) (serves : ∀ document operation, Document.ofText text = .ok document →
      served.Reads document sent wanted operation → served.Suffices executor operation) :
    ∃ outcome calls after,
      (served.respondToText executor.observed text sent wanted).run ([], state) =
        (outcome, calls, after) ∧
      served.Ends text sent wanted state outcome calls after := by
  unfold Served.respondToText
  cases parsed : Document.ofText text with
  | error fault => exact ⟨_, _, _, rfl, .refused .unparsed⟩
  | ok document =>
  change ∃ outcome calls after,
    (served.respond executor.observed document sent wanted).run ([], state) =
      (outcome, calls, after) ∧ served.Ends text sent wanted state outcome calls after
  -- The checks of the document come in the order of the response.
  cases servable : served.types.isServable with
  | false =>
      refine ⟨_, _, _, ?_, .escaped parsed (.unservable servable)⟩
      rw [Served.respond, servable]
      rfl
  | true =>
  cases valid : document.isValid served.types with
  | false =>
      refine ⟨_, _, _, ?_, .refused .invalid⟩
      rw [Served.respond, servable, valid]
      rfl
  | true =>
  cases brief : document.isOverlong with
  | true =>
      refine ⟨_, _, _, ?_, .refused .overlong⟩
      rw [Served.respond, servable, valid, brief]
      rfl
  | false =>
  cases values : served.variablesFor? document sent wanted with
  | none =>
      refine ⟨_, _, _, ?_, .refused .invalid⟩
      rw [Served.respond, servable, valid, brief, values]
      rfl
  | some bindings =>
  cases read : served.surface.read document bindings wanted with
  | error failure =>
      have accounts := Served.read_accounts made servable valid values failure read
      obtain ⟨outcome, rejected, ends⟩ := Served.Ends.of_accounts parsed accounts state
      rw [run_respond_bound servable valid brief values, read]
      exact ⟨outcome, [], state, rejected, ends⟩
  | ok operation =>
      have reads : served.Reads document sent wanted operation :=
        ⟨servable, valid, brief, bindings, values, read⟩
      exact Served.run_ends made parsed reads (serves document operation parsed reads) state

end

/-- A request for the cursors of the actors of all movies. -/
def billingText : String :=
  "\x7b movies \x7b actorsConnection \x7b edges \x7b cursor \x7d \x7d \x7d \x7d"

/-- Whether a document without variables asks for one page of each movie, and no more. -/
def listsBillings (document : Document) : Bool :=
  (stage.variablesFor? document [] none).map List.isEmpty = some true &&
  (stage.surface.read document [] none).toOption.any fun operation =>
    (asking operation.fields).map (fun field =>
      (stage.basis.plan field).toOption.any listsActorsPage) = [true]

/-- An executor that knows one movie with one actor. -/
def billingExecutor : Executor Unit := fun _ _ => pure [billedRows]

theorem billedRows_report : RowsReport billedRows [] :=
  ⟨_, [[]], rfl, .cons ⟨_, [], rfl, rfl, .nil⟩ .nil, rfl⟩

theorem billing_suffices {document : Document} {operation : Operation}
    (parsed : Document.ofText billingText = .ok document)
    (reads : stage.Reads document [] none operation) : stage.Suffices billingExecutor operation := by
  have told : (Document.ofText billingText).toOption.any listsBillings = true := by
    unfold Document.ofText billingText listsBillings
    rw [Graphql.Token.ofText_ofList, stage_basis]
    decide +kernel
  rw [parsed] at told
  obtain ⟨undeclared, lists⟩ := Bool.and_eq_true_iff.mp told
  obtain ⟨bindings, given, read⟩ := reads.read
  rw [given] at undeclared
  cases bindings with
  | cons first rest => exact absurd undeclared (by simp)
  | nil =>
  rw [read] at lists
  obtain ⟨field, alone, page⟩ := List.map_eq_singleton_iff.mp (of_decide_eq_true lists)
  intro statements state compiled
  refine ⟨[billedRows], state, rfl, ?_⟩
  rw [alone]
  refine .cons (fun plan planned => ⟨⟨fifth, ?_, fifth_hasPositions _⟩, [], billedRows_report⟩) .nil
  rw [planned] at page
  obtain ⟨label, step, rfl⟩ := eq_of_listsActorsPage page
  exact mayAnswer_billedRows _ label step

theorem request_ends_billing :
    ∃ data errors call after,
      (stage.respondToText billingExecutor.observed billingText [] none).run ([], ()) =
        (.ok { data := some data, errors }, [call], after) := by
  have answered : (Document.ofText billingText).toOption.any (fun document =>
      ((stage.respond billingExecutor.observed document [] none).run ([], ())).1.toOption.any
        (·.data.isSome)) = true := by
    unfold Document.ofText billingText
    rw [Graphql.Token.ofText_ofList]
    decide +kernel
  obtain ⟨outcome, calls, after, ran, ends⟩ := Served.request_ends stage_made billingText [] none
    billingExecutor () fun _ _ => billing_suffices
  obtain ⟨document, parsed, some_⟩ := (Option.any_eq_true _ _).mp answered
  have same : stage.respondToText billingExecutor.observed billingText [] none =
      stage.respond billingExecutor.observed document [] none := by
    rw [Served.respondToText, Outcome.toOption_eq_some_iff.mp parsed]
  rw [← same, ran] at some_
  cases ends with
  | refused error => cases some_
  | answered parsed reads compiled keys => exact ⟨_, _, _, _, ran⟩
  | escaped => cases some_
  | hidden => cases some_

/-- A schema of movies with titles. -/
def filmDocument : Document :=
  [.object { name := "Movie", directives := [], fields := [⟨"title", .nonNull (.named "String"), []⟩] }]

def films : Served := (Served.ofDocument filmDocument {} []).toOption.get (by decide +kernel)

/-- A request with a condition on a variable that has a default, and so may be null. -/
def conditionText : String :=
  "query($v: Boolean = true) \x7b movies \x7b title @include(if: $v) \x7d \x7d"

/-- Whether a document is valid and its variable may be null, but is not read then. -/
def lacksCondition (document : Document) : Bool :=
  films.types.isServable && document.isValid films.types && !document.isOverlong &&
  (films.variablesFor? document [("v", .null)] none).any fun bindings =>
    match films.surface.read document bindings none with
    | .error .argument => true
    | _ => false

theorem exists_escaped_condition :
    Served.ofDocument filmDocument {} [] = .ok films ∧
    ∃ document, Document.ofText conditionText = .ok document ∧
      document.isValid films.types = true ∧
      (films.variablesFor? document [("v", .null)] none).isSome = true ∧
      ∀ {σ : Type} (executor : Executor σ) (state : σ),
        (films.respondToText executor.observed conditionText [("v", .null)] none).run ([], state) =
          (.error (.request .argument), [], state) := by
  have told : (Document.ofText conditionText).toOption.any lacksCondition = true := by
    unfold Document.ofText conditionText lacksCondition
    rw [Graphql.Token.ofText_ofList]
    decide +kernel
  obtain ⟨document, parsed, lacks⟩ := (Option.any_eq_true _ _).mp told
  rw [Outcome.toOption_eq_some_iff] at parsed
  unfold lacksCondition at lacks
  simp only [Bool.and_eq_true, Bool.not_eq_true'] at lacks
  obtain ⟨⟨⟨servable, valid⟩, brief⟩, unread⟩ := lacks
  obtain ⟨bindings, values, unread⟩ := (Option.any_eq_true _ _).mp unread
  refine ⟨Outcome.eq_ok_of_isSome _, document, parsed, valid, by rw [values]; rfl,
    fun executor state => ?_⟩
  rw [Served.respondToText, parsed]
  change (films.respond executor.observed document [("v", .null)] none).run ([], state) = _
  rw [run_respond_bound servable valid brief values]
  split at unread
  · next missing =>
    rw [missing]
    rfl
  · cases unread

end GraphGateway.Service
