import GraphGateway.Store.Session

/-!
Laws of accesses.  An access that is run over a link answers, or is interrupted, and leaves the link
behind; these laws say for each way to build an access what its run comes to.
-/
namespace GraphGateway.Store

/-- A step that is interrupted leaves its state behind, and what comes next is not run. -/
theorem interruptible_bind {σ α β : Type} (first : ExceptT Interruption (StateM σ) α)
    (next : α → ExceptT Interruption (StateM σ) β) (state : σ) :
    (first >>= next).run state =
      match first.run state with
      | (.ok answer, after) => (next answer).run after
      | (.error interruption, after) => (.error interruption, after) := by
  change StateT.bind first.run (ExceptT.bindCont next) state = _
  unfold StateT.bind
  rcases first.run state with ⟨result, after⟩
  cases result <;> rfl

/-- What is caught is handled in the state that was left behind. -/
theorem interruptible_tryCatch {σ α : Type} (work : ExceptT Interruption (StateM σ) α)
    (handler : Interruption → ExceptT Interruption (StateM σ) α) (state : σ) :
    (tryCatch work handler).run state =
      match work.run state with
      | (.ok answer, after) => (.ok answer, after)
      | (.error interruption, after) => (handler interruption).run after := by
  change ExceptT.tryCatch work handler state = _
  simp only [ExceptT.tryCatch, ExceptT.mk, bind, StateT.bind]
  change _ = match work state with
    | (.ok answer, after) => (Except.ok answer, after)
    | (.error interruption, after) => handler interruption after
  rcases work state with ⟨result, after⟩
  cases result <;> rfl

namespace Access

variable {σ α β : Type}

theorem run_pure (answer : α) (link : Link σ) :
    (pure answer : Access σ α).run link = (.ok answer, link) := rfl

theorem run_throw (interruption : Interruption) (link : Link σ) :
    (throw interruption : Access σ α).run link = (.error interruption, link) := rfl

theorem run_bind_ok {access : Access σ α} {next : α → Access σ β} {link after : Link σ} {answer : α}
    (ran : access.run link = (.ok answer, after)) :
    (access >>= next).run link = (next answer).run after := by
  rw [interruptible_bind, ran]

theorem run_bind_error {access : Access σ α} {next : α → Access σ β} {link after : Link σ}
    {interruption : Interruption} (ran : access.run link = (.error interruption, after)) :
    (access >>= next).run link = (.error interruption, after) := by
  rw [interruptible_bind, ran]

theorem run_get (link : Link σ) : (get : Access σ (Link σ)).run link = (.ok link, link) := rfl

theorem run_modify (change : Link σ → Link σ) (link : Link σ) :
    (modify change : Access σ Unit).run link = (.ok (), change link) := rfl

theorem run_note (event : Event) (link : Link σ) :
    (note event : Access σ Unit).run link =
      (.ok (), { link with journal := link.journal ++ [event] }) := rfl

theorem run_outcome (access : Access σ α) (link : Link σ) :
    (outcome access).run link = (.ok (access.run link).1, (access.run link).2) := rfl

theorem run_replyTo (request : Reply σ α) (link : Link σ) :
    (replyTo request).run link =
      (.ok (request link.state).1, { link with state := (request link.state).2 }) := rfl

theorem run_ask_ok {request : Reply σ α} {answer : α} {state : σ} (link : Link σ)
    (reply : request link.state = (.ok answer, state)) :
    (ask request).run link = (.ok answer, { link with state }) := by
  unfold ask
  rw [interruptible_bind, run_replyTo, reply]
  rfl

theorem run_ask_error {request : Reply σ α} {fault : ServerFault} {state : σ} (link : Link σ)
    (reply : request link.state = (.error fault, state)) :
    (ask request).run link = (.error (.server fault), { link with state }) := by
  unfold ask
  rw [interruptible_bind, run_replyTo, reply]
  rfl

/-- A closing that notes one event comes after whatever the access did, and changes nothing that the
access answered. -/
theorem run_endingWith_note (access : Access σ α) (event : Event) (link : Link σ) :
    (endingWith access (note event)).run link =
      ((access.run link).1,
        { (access.run link).2 with journal := (access.run link).2.journal ++ [event] }) := by
  unfold endingWith
  rw [interruptible_bind, run_outcome]
  change ((note event : Access σ Unit) >>= _).run _ = _
  rw [interruptible_bind, run_note]
  rcases access.run link with ⟨result, after⟩
  cases result <;> rfl

end Access

end GraphGateway.Store

/-!
What sessions leave alone.  Work that is done in sessions changes neither the driver in use nor how
many drivers were asked for, and of the server it changes nothing that its sessions do not change.
-/
namespace GraphGateway.Store

open Access
open Statement (Compiled)

variable {σ α β : Type}

/-- A link with the same driver in use, over which no driver was asked for, and a server of which
`view` shows the same. -/
structure Link.IsKept (view : σ → β) (before after : Link σ) : Prop where
  driver : after.driver = before.driver
  connected : after.connected = before.connected
  asked : after.asked = before.asked
  shown : view after.state = view before.state

namespace Link.IsKept

variable {view : σ → β} {before middle after : Link σ}

theorem refl (link : Link σ) : link.IsKept view link :=
  ⟨rfl, rfl, rfl, rfl⟩

theorem trans (first : before.IsKept view middle) (second : middle.IsKept view after) :
    before.IsKept view after where
  driver := second.driver.trans first.driver
  connected := second.connected.trans first.connected
  asked := second.asked.trans first.asked
  shown := second.shown.trans first.shown

end Link.IsKept

/-- Whatever comes of the access, it leaves the drivers alone. -/
def Access.Keeps (view : σ → β) (access : Access σ α) : Prop :=
  ∀ link : Link σ, link.IsKept view (access.run link).2

/-- Sessions change nothing that `view` shows of the server. -/
structure Server.SessionsKeep (server : Server σ) (view : σ → β) : Prop where
  opening : ∀ driver state, view (server.openSession driver state).2 = view state
  runningAlone : ∀ text state, view (server.runAlone text state).2 = view state
  running : ∀ text parameters state, view (server.run text parameters state).2 = view state
  committing : ∀ state, view (server.commit state).2 = view state

/-- Where nothing of a server is shown, its sessions change nothing. -/
theorem Server.SessionsKeep.nothing (server : Server σ) : server.SessionsKeep fun _ => () where
  opening _ _ := rfl
  runningAlone _ _ := rfl
  running _ _ _ := rfl
  committing _ := rfl

namespace Access.Keeps

variable {view : σ → β} {γ : Type}

theorem pure (answer : α) : Keeps view (pure answer : Access σ α) :=
  fun link => .refl link

theorem throw (interruption : Interruption) : Keeps view (throw interruption : Access σ α) :=
  fun link => .refl link

theorem bind {access : Access σ α} {next : α → Access σ γ} (first : access.Keeps view)
    (second : ∀ answer, (next answer).Keeps view) : (access >>= next).Keeps view := by
  intro link
  have before := first link
  rw [interruptible_bind]
  rcases ran : access.run link with ⟨result, after⟩
  rw [ran] at before
  cases result with
  | error interruption => exact before
  | ok answer => exact before.trans (second answer after)

theorem note (event : Event) : (note event : Access σ Unit).Keeps view :=
  fun _ => ⟨rfl, rfl, rfl, rfl⟩

theorem replyTo {request : Reply σ α} (kept : ∀ state, view (request state).2 = view state) :
    (replyTo request).Keeps view :=
  fun link => ⟨rfl, rfl, rfl, kept link.state⟩

theorem ask {request : Reply σ α} (kept : ∀ state, view (request state).2 = view state) :
    (ask request).Keeps view := by
  refine (replyTo kept).bind fun reply => ?_
  cases reply with
  | ok answer => exact pure answer
  | error fault => exact throw _

theorem outcome {access : Access σ α} (kept : access.Keeps view) : (outcome access).Keeps view := by
  intro link
  rw [run_outcome]
  exact kept link

theorem endingWith {access : Access σ α} {closing : Access σ Unit} (kept : access.Keeps view)
    (keptToo : closing.Keeps view) : (endingWith access closing).Keeps view := by
  refine kept.outcome.bind fun result => keptToo.bind fun _ => ?_
  cases result with
  | ok answer => exact pure answer
  | error interruption => exact throw interruption

theorem driverInUse : (driverInUse : Access σ Nat).Keeps view := by
  intro link
  unfold Store.driverInUse
  rw [run_bind_ok (run_get link)]
  cases link.driver <;> exact .refl link

variable {server : Server σ} (sessions : server.SessionsKeep view)
include sessions

theorem inSession (driver : Nat) (options : Entries Value) {work : Access σ α}
    (kept : work.Keeps view) : (inSession server driver options work).Keeps view :=
  (note _).bind fun _ => (ask (sessions.opening driver)).bind fun _ => kept.endingWith (note _)

theorem session (connection : Settings.Connection) {work : Access σ α} (kept : work.Keeps view) :
    (session server connection work).Keeps view :=
  driverInUse.bind fun driver => inSession sessions driver _ kept

theorem runVerified (statement : Compiled) : (runVerified server statement).Keeps view := by
  refine (note _).bind fun _ => (ask (sessions.running _ _)).bind fun rows => ?_
  cases statement.verify rows with
  | ok accepted => exact pure rows
  | error failure => exact throw _

theorem runAll (statements : List Compiled) : (runAll server statements).Keeps view := by
  induction statements with
  | nil => exact pure []
  | cons statement rest ih =>
      exact (runVerified sessions statement).bind fun _ => ih.bind fun _ => pure _

theorem transactionOnce (writes : Bool) (statements : List Compiled) :
    (transactionOnce server writes statements).Keeps view := by
  refine (note _).bind fun _ => Keeps.bind (outcome ?_) fun result => (note _).bind fun _ => pure _
  exact (runAll sessions statements).bind fun _ => (ask sessions.committing).bind fun _ => pure _

theorem transaction (writes : Bool) (statements : List Compiled) (left : Nat) :
    (transaction server writes statements left).Keeps view := by
  induction left with
  | zero =>
      refine (transactionOnce sessions writes statements).bind fun result => ?_
      cases result with
      | ok rows => exact pure rows
      | error interruption => exact throw interruption
  | succ left ih =>
      refine (transactionOnce sessions writes statements).bind fun result => ?_
      cases result with
      | ok rows => exact pure rows
      | error interruption =>
          dsimp only
          split
          · exact ih
          · exact throw interruption

theorem execute (connection : Settings.Connection) (statements : List Compiled) (writes : Bool) :
    (execute server connection statements writes).Keeps view := by
  unfold Store.execute
  split
  · exact pure []
  · exact session sessions connection (transaction sessions writes statements _)

theorem createEach (skipFailed : Bool) (done : Entries Bool) (statements : List String) :
    (createEach server skipFailed done statements).Keeps view := by
  induction statements generalizing done with
  | nil => exact pure done
  | cons statement rest ih =>
      refine (note _).bind fun _ => (replyTo (sessions.runningAlone statement)).bind fun reply => ?_
      cases reply with
      | ok answer => exact ih _
      | error fault =>
          dsimp only
          split
          · exact ih _
          · exact throw _

theorem createAllConstraints (connection : Settings.Connection) (model : Schema.Model)
    (features : Settings.Features) :
    (createAllConstraints server connection model features).Keeps view := by
  refine driverInUse.bind fun driver => Keeps.bind (outcome ?_) fun result => ?_
  · exact inSession sessions driver _ (createEach sessions true [] _)
  · cases result with
    | error interruption => exact throw _
    | ok created =>
        dsimp only
        split
        · exact pure created
        · exact throw _

end Access.Keeps

end GraphGateway.Store
