import GraphGateway.Proofs.Store.Sessions
import GraphGateway.Proofs.Store.Trial
import GraphGateway.Store.Script

/-!
Attempts to connect, told by the replies of the server.  One that succeeds sets the driver in use and
the mark that the link is connected together, and those that fail leave both alone.
-/
namespace GraphGateway.Store

open Access
open Settings (Connection)
open Statement (Compiled)

section

variable {σ : Type} (server : Server σ) (connection : Connection)

/-- The link once a driver was asked for. -/
def Link.asking (link : Link σ) : Link σ :=
  { link with
    asked := link.asked + 1
    journal := link.journal ++ [.made (link.asked + 1) connection] }

/-- The link once a driver was made and asked whether it reaches the server. -/
def Link.verifying (link : Link σ) : Link σ :=
  { link.asking connection with
    journal := (link.asking connection).journal ++ [.verified (link.asked + 1)] }

/-- What one attempt comes to, told by the replies of the server. -/
inductive Attempted (link : Link σ) : Attempt → Link σ → Prop where
  | unmade {fault : ServerFault} {next : σ}
      (making : server.makeDriver (link.asked + 1) link.state = (.error fault, next)) :
      Attempted link (.failed none fault) { link.asking connection with state := next }
  | unverified {fault : ServerFault} {made next : σ}
      (making : server.makeDriver (link.asked + 1) link.state = (.ok (), made))
      (verifying : server.verifyDriver (link.asked + 1) made = (.error fault, next)) :
      Attempted link (.failed (some (link.asked + 1)) fault)
        { link.verifying connection with state := next }
  | connected {made next : σ}
      (making : server.makeDriver (link.asked + 1) link.state = (.ok (), made))
      (verifying : server.verifyDriver (link.asked + 1) made = (.ok (), next)) :
      Attempted link (.connected (link.asked + 1)) { link.verifying connection with state := next }

theorem run_attempt (link : Link σ) : ∃ came after, Attempted server connection link came after ∧
    (attempt server connection).run link = (.ok came, after) := by
  rcases making : server.makeDriver (link.asked + 1) link.state with ⟨reply, made⟩
  unfold attempt
  rw [run_bind_ok (run_get link), run_bind_ok (run_modify _ _), run_bind_ok (run_note _ _),
    run_bind_ok (run_replyTo _ _)]
  dsimp only
  rw [making]
  cases reply with
  | error fault => exact ⟨_, _, .unmade making, rfl⟩
  | ok answer =>
      rcases verifying : server.verifyDriver (link.asked + 1) made with ⟨reply, next⟩
      dsimp only
      rw [run_bind_ok (run_note _ _), run_bind_ok (run_replyTo _ _)]
      dsimp only
      rw [verifying]
      cases reply with
      | error fault => exact ⟨_, _, .unverified making verifying, rfl⟩
      | ok answer => exact ⟨_, _, .connected making verifying, rfl⟩

/-- Closing a driver is asked for whatever the server replies. -/
theorem run_close (driver : Nat) (link : Link σ) :
    (close server driver).run link =
      ((server.closeDriver driver link.state).1.mapError .server,
        { link with
          state := (server.closeDriver driver link.state).2
          journal := link.journal ++ [.closed driver] }) := by
  unfold close
  rw [run_bind_ok (run_note _ _)]
  rcases reply : server.closeDriver driver link.state with ⟨answer, next⟩
  cases answer with
  | error fault => exact run_ask_error _ reply
  | ok answer => exact run_ask_ok _ reply

/-- The ways in which attempts to connect go on and end; the last attempt that is left may not be
followed by another. -/
inductive Tried : Nat → Float → Option ServerFault → Nat → Link σ → Except Interruption Nat →
    Link σ → Prop where
  | exhausted {made : Nat} {delay : Float} {last : Option ServerFault} {link : Link σ} :
      Tried made delay last 0 link
        (.error (.store (.unreached connection.uri connection.attempts last))) link
  | connected {made : Nat} {delay : Float} {last : Option ServerFault} {left driver : Nat}
      {link after : Link σ} (attempted : Attempted server connection link (.connected driver) after) :
      Tried made delay last (left + 1) link (.ok driver)
        { after with driver := some driver, connected := true }
  | failed {made : Nat} {delay : Float} {last : Option ServerFault} {left : Nat}
      {driver : Option Nat} {message : String} {link after : Link σ}
      (attempted : Attempted server connection link (.failed driver (.failure message)) after) :
      Tried made delay last (left + 1) link (.error (.server (.failure message))) after
  | unclosed {made : Nat} {delay : Float} {last : Option ServerFault} {left : Nat}
      {driver : Option Nat} {fault : ServerFault} {interruption : Interruption}
      {link after final : Link σ}
      (attempted : Attempted server connection link (.failed driver fault) after)
      (known : ∀ message, fault ≠ .failure message)
      (closing : (closeMade server driver).run after = (.error interruption, final)) :
      Tried made delay last (left + 1) link (.error interruption) final
  | refused {made : Nat} {delay : Float} {last : Option ServerFault} {left : Nat}
      {driver : Option Nat} {link after final : Link σ}
      (attempted : Attempted server connection link (.failed driver .authentication) after)
      (closing : (closeMade server driver).run after = (.ok (), final)) :
      Tried made delay last (left + 1) link
        (.error (.store (.refused connection.uri (made + 1)))) final
  | again {made : Nat} {delay : Float} {last : Option ServerFault} {left : Nat}
      {driver : Option Nat} {fault : ServerFault} {link after closed final : Link σ}
      {result : Except Interruption Nat}
      (attempted : Attempted server connection link (.failed driver fault) after)
      (passing : fault = .unavailable ∨ fault = .system)
      (closing : (closeMade server driver).run after = (.ok (), closed))
      (more : Tried (made + 1) (if left = 0 then delay else delay * 2) (some fault) left
        (if left = 0 then closed else { closed with journal := closed.journal ++ [.paused delay] })
        result final) :
      Tried made delay last (left + 1) link result final

/-- After a fault that passes, the driver that was made is closed before the next attempt. -/
theorem tried_again {made : Nat} {delay : Float} {last : Option ServerFault} {left : Nat}
    {driver : Option Nat} {fault : ServerFault} {link after : Link σ}
    (attempted : Attempted server connection link (.failed driver fault) after)
    (passing : fault = .unavailable ∨ fault = .system)
    (further : ∀ made delay last link, ∃ result final,
      Tried server connection made delay last left link result final ∧
        (attempts server connection made delay last left).run link = (result, final)) :
    ∃ result final, Tried server connection made delay last (left + 1) link result final ∧
      (do
        closeMade server driver
        if left = 0 then attempts server connection (made + 1) delay (some fault) left
        else
          note (.paused delay)
          attempts server connection (made + 1) (delay * 2) (some fault) left :
        Access σ Nat).run after = (result, final) := by
  rcases closing : (closeMade server driver).run after with ⟨reply, closed⟩
  cases reply with
  | error interruption =>
      refine ⟨_, _, .unclosed attempted ?_ closing, run_bind_error closing⟩
      rcases passing with rfl | rfl <;> exact fun _ same => ServerFault.noConfusion same
  | ok answer =>
      rw [run_bind_ok closing]
      by_cases spent : left = 0
      · obtain ⟨result, final, tried, ran⟩ := further (made + 1) delay (some fault) closed
        refine ⟨result, final, .again attempted passing closing ?_, ?_⟩
        · rw [if_pos spent, if_pos spent]
          exact tried
        · rw [if_pos spent]
          exact ran
      · obtain ⟨result, final, tried, ran⟩ := further (made + 1) (delay * 2) (some fault)
          { closed with journal := closed.journal ++ [.paused delay] }
        refine ⟨result, final, .again attempted passing closing ?_, ?_⟩
        · rw [if_neg spent, if_neg spent]
          exact tried
        · rw [if_neg spent, run_bind_ok (run_note _ _)]
          exact ran

theorem run_attempts (made : Nat) (delay : Float) (last : Option ServerFault) (left : Nat)
    (link : Link σ) : ∃ result final,
      Tried server connection made delay last left link result final ∧
      (attempts server connection made delay last left).run link = (result, final) := by
  induction left generalizing made delay last link with
  | zero => exact ⟨_, _, .exhausted, rfl⟩
  | succ left ih =>
      obtain ⟨came, after, attempted, ran⟩ := run_attempt server connection link
      unfold attempts
      rw [run_bind_ok ran]
      cases came with
      | connected driver => exact ⟨_, _, .connected attempted, rfl⟩
      | failed driver fault =>
          cases fault with
          | failure message => exact ⟨_, _, .failed attempted, rfl⟩
          | unavailable => exact tried_again server connection attempted (.inl rfl) ih
          | system => exact tried_again server connection attempted (.inr rfl) ih
          | authentication =>
              rcases closing : (closeMade server driver).run after with ⟨reply, closed⟩
              cases reply with
              | error interruption =>
                  refine ⟨_, _, .unclosed attempted ?_ closing, run_bind_error closing⟩
                  exact fun _ same => ServerFault.noConfusion same
              | ok answer =>
                  exact ⟨_, _, .refused attempted closing, run_bind_ok closing⟩

variable {server connection}

theorem Attempted.keeps {link after : Link σ} {came : Attempt}
    (attempted : Attempted server connection link came after) :
    after.driver = link.driver ∧ after.connected = link.connected := by
  cases attempted <;> exact ⟨rfl, rfl⟩

theorem closeMade_keeps {driver : Option Nat} {link after : Link σ}
    {reply : Except Interruption Unit}
    (closing : (closeMade server driver).run link = (reply, after)) :
    after.driver = link.driver ∧ after.connected = link.connected := by
  cases driver with
  | none =>
      cases closing
      exact ⟨rfl, rfl⟩
  | some driver =>
      unfold closeMade at closing
      rw [run_close] at closing
      cases closing
      exact ⟨rfl, rfl⟩

/-- A driver that failed is closed without any change to the driver in use. -/
theorem Attempted.keeps_closed {driver : Option Nat} {fault : ServerFault}
    {link after closed : Link σ} {reply : Except Interruption Unit}
    (attempted : Attempted server connection link (.failed driver fault) after)
    (closing : (closeMade server driver).run after = (reply, closed)) :
    closed.driver = link.driver ∧ closed.connected = link.connected := by
  obtain ⟨driver, connected⟩ := closeMade_keeps closing
  exact ⟨driver.trans attempted.keeps.1, connected.trans attempted.keeps.2⟩

/-- Attempts set the driver and the mark together when they succeed, and leave both alone when they
fail. -/
theorem Tried.settles {made : Nat} {delay : Float} {last : Option ServerFault} {left : Nat}
    {link final : Link σ} {result : Except Interruption Nat}
    (tried : Tried server connection made delay last left link result final) :
    match result with
    | .ok driver => final.driver = some driver ∧ final.connected = true
    | .error _ => final.driver = link.driver ∧ final.connected = link.connected := by
  induction tried with
  | exhausted => exact ⟨rfl, rfl⟩
  | connected attempted => exact ⟨rfl, rfl⟩
  | failed attempted => exact attempted.keeps
  | unclosed attempted known closing => exact attempted.keeps_closed closing
  | refused attempted closing => exact attempted.keeps_closed closing
  | @again _ _ _ left _ _ _ _ _ _ result attempted passing closing more ih =>
      cases result with
      | ok driver => exact ih
      | error interruption =>
          have kept := attempted.keeps_closed closing
          dsimp only at ih ⊢
          rw [ih.1, ih.2]
          by_cases spent : left = 0
          · rw [if_pos spent]
            exact kept
          · rw [if_neg spent]
            exact kept

end

end GraphGateway.Store

/-!
The state of a connection.  A link holds the driver in use and a mark that it is connected.  Both are
set by an attempt that succeeds and cleared by disconnecting, and nothing else changes either.  So
after any course of acts a link is connected exactly if it has a driver: a connection that stands is
used again, one that fails leaves no driver behind, disconnecting clears the link even if the driver
fails to close, and without a connection nothing reaches the server.
-/
namespace GraphGateway.Store

open Access
open Settings (Connection)
open Statement (Compiled)

variable {σ α : Type}

/-- Work for a session, which changes of a server no more than its sessions do. -/
structure Errand (server : Server σ) where
  work : Access σ Unit
  keeps : ∀ {β : Type} (view : σ → β), server.SessionsKeep view → work.Keeps view

/-- What can be done with a link to a server. -/
inductive Act (server : Server σ) where
  | connect
  | disconnect
  /-- The way into a context that is connected, and the way out of it. -/
  | enter
  | leave
  | execute (statements : List Compiled) (writes : Bool)
  /-- Creates the constraints and indices of a model. -/
  | prepare (model : Schema.Model) (features : Settings.Features)
  | session (errand : Errand server)

section

variable {server : Server σ} (connection : Connection)

def Act.perform : Act server → Access σ Unit
  | .connect | .enter => do let _ ← Store.connect server connection
  | .disconnect | .leave => Store.disconnect server
  | .execute statements writes => do let _ ← Store.execute server connection statements writes
  | .prepare model features => do
      let _ ← createAllConstraints server connection model features
  | .session errand => Store.session server connection errand.work

/-- The link that some acts leave behind, each of them done or interrupted. -/
def Link.after (link : Link σ) (acts : List (Act server)) : Link σ :=
  acts.foldl (fun link act => ((act.perform connection).run link).2) link

end

/-- The mark that a link is connected tells whether it has a driver. -/
def Link.IsInStep (link : Link σ) : Prop :=
  link.connected = link.driver.isSome

namespace Link.IsInStep

variable {link : Link σ}

theorem isConnected_eq (steady : link.IsInStep) : link.isConnected = link.driver.isSome := by
  unfold Link.isConnected
  rw [steady, Bool.and_self]

theorem driver_eq_none (steady : link.IsInStep) (apart : link.isConnected = false) :
    link.driver = none := by
  rw [steady.isConnected_eq, Option.isSome_eq_false_iff] at apart
  exact Option.isNone_iff_eq_none.mp apart

theorem of_kept {β : Type} {view : σ → β} {after : Link σ} (steady : link.IsInStep)
    (kept : link.IsKept view after) : after.IsInStep := by
  unfold Link.IsInStep
  rw [kept.connected, kept.driver]
  exact steady

end Link.IsInStep

section

variable (server : Server σ) (connection : Connection) {link : Link σ}

/-- A connection that stands is used again. -/
theorem run_connect_of_connected {driver : Nat} (known : link.driver = some driver)
    (connected : link.connected = true) :
    (connect server connection).run link = (.ok driver, link) := by
  unfold connect
  rw [run_bind_ok (run_get link), known, connected]
  rfl

/-- Without a driver attempts are made. -/
theorem run_connect_of_unconnected (unknown : link.driver = none) :
    (connect server connection).run link =
      (attempts server connection 0 connection.retryDelay none connection.attempts.toNat).run
        link := by
  unfold connect
  rw [run_bind_ok (run_get link), unknown]

/-- Without a driver there is nothing to give up. -/
theorem run_disconnect_of_unconnected (unknown : link.driver = none) :
    (disconnect server).run link = (.ok (), link) := by
  unfold disconnect
  rw [run_bind_ok (run_get link), unknown]
  rfl

/-- A driver is given up even if it fails to close. -/
theorem run_disconnect_of_connected {driver : Nat} (known : link.driver = some driver) :
    (disconnect server).run link =
      ((server.closeDriver driver link.state).1.mapError .server,
        { link with
          state := (server.closeDriver driver link.state).2
          journal := link.journal ++ [.closed driver]
          driver := none
          connected := false }) := by
  unfold disconnect
  rw [run_bind_ok (run_get link), known]
  dsimp only
  unfold endingWith
  rw [run_bind_ok (run_outcome _ _), run_close, run_bind_ok (run_modify _ _)]
  cases (server.closeDriver driver link.state).1 <;> rfl

/-- Disconnecting leaves no driver. -/
theorem disconnect_clears (steady : link.IsInStep) :
    ((disconnect server).run link).2.driver = none ∧
      ((disconnect server).run link).2.connected = false := by
  cases known : link.driver with
  | none =>
      rw [run_disconnect_of_unconnected server known]
      refine ⟨known, ?_⟩
      rw [steady, known]
      rfl
  | some driver =>
      rw [run_disconnect_of_connected server known]
      exact ⟨rfl, rfl⟩

/-- A connection that is asked for stands behind it, or there is none at all. -/
theorem connect_settles (steady : link.IsInStep) {result : Except Interruption Nat}
    {after : Link σ} (ran : (connect server connection).run link = (result, after)) :
    match result with
    | .ok driver => after.driver = some driver ∧ after.connected = true
    | .error _ => after.driver = none ∧ after.connected = false := by
  cases known : link.driver with
  | some driver =>
      have connected : link.connected = true := by
        rw [steady, known]
        rfl
      rw [run_connect_of_connected server connection known connected] at ran
      cases ran
      exact ⟨known, connected⟩
  | none =>
      have apart : link.connected = false := by
        rw [steady, known]
        rfl
      obtain ⟨_, _, tried, tries⟩ := run_attempts server connection 0 connection.retryDelay none
        connection.attempts.toNat link
      rw [run_connect_of_unconnected server connection known, tries] at ran
      cases ran
      have settled := tried.settles
      cases result with
      | ok driver => exact settled
      | error interruption => exact ⟨settled.1.trans known, settled.2.trans apart⟩

theorem connect_isInStep (steady : link.IsInStep) :
    ((connect server connection).run link).2.IsInStep := by
  rcases ran : (connect server connection).run link with ⟨result, after⟩
  have settled := connect_settles server connection steady ran
  unfold Link.IsInStep
  cases result with
  | ok driver =>
      rw [settled.1, settled.2]
      rfl
  | error interruption =>
      rw [settled.1, settled.2]
      rfl

theorem disconnect_isInStep (steady : link.IsInStep) :
    ((disconnect server).run link).2.IsInStep := by
  obtain ⟨driver, connected⟩ := disconnect_clears server steady
  unfold Link.IsInStep
  rw [driver, connected]
  rfl

end

section

variable {server : Server σ} {connection : Connection} {link : Link σ}

/-- An act connects, or disconnects, or leaves the drivers alone. -/
theorem Act.run_perform (act : Act server) (connection : Connection) (link : Link σ) :
    ((act.perform connection).run link).2 = ((Store.connect server connection).run link).2 ∨
      ((act.perform connection).run link).2 = ((Store.disconnect server).run link).2 ∨
      ∀ {β : Type} (view : σ → β), server.SessionsKeep view →
        link.IsKept view ((act.perform connection).run link).2 := by
  have connecting : ((Store.connect server connection >>= fun _ => pure () : Access σ Unit).run
      link).2 = ((Store.connect server connection).run link).2 := by
    rw [interruptible_bind]
    rcases (Store.connect server connection).run link with ⟨result, after⟩
    cases result <;> rfl
  cases act with
  | connect => exact .inl connecting
  | enter => exact .inl connecting
  | disconnect => exact .inr (.inl rfl)
  | leave => exact .inr (.inl rfl)
  | execute statements writes =>
      refine .inr (.inr fun view sessions => Keeps.bind ?_ (fun _ => .pure ()) link)
      exact .execute sessions connection statements writes
  | prepare model features =>
      refine .inr (.inr fun view sessions => Keeps.bind ?_ (fun _ => .pure ()) link)
      exact .createAllConstraints sessions connection model features
  | session errand =>
      refine .inr (.inr fun view sessions => ?_)
      exact Keeps.session sessions connection (errand.keeps view sessions) link

/-- What holds of a link holds after any acts, if connecting and disconnecting keep it and so does
all that leaves the drivers alone. -/
theorem Link.after_of_kept {β : Type} {view : σ → β} (sessions : server.SessionsKeep view)
    {Holds : Link σ → Prop}
    (connects : ∀ link, Holds link → Holds ((connect server connection).run link).2)
    (disconnects : ∀ link, Holds link → Holds ((disconnect server).run link).2)
    (passes : ∀ {before after : Link σ}, Holds before → before.IsKept view after → Holds after)
    (acts : List (Act server)) (start : Holds link) : Holds (link.after connection acts) := by
  induction acts generalizing link with
  | nil => exact start
  | cons act rest ih =>
      refine @ih ((act.perform connection).run link).2 ?_
      rcases act.run_perform connection link with same | same | kept
      · rw [same]
        exact connects link start
      · rw [same]
        exact disconnects link start
      · exact passes start (kept view sessions)

/-- The mark and the driver stay in step whatever is done with a link. -/
theorem Link.IsInStep.after (steady : link.IsInStep) (acts : List (Act server)) :
    (link.after connection acts).IsInStep := by
  refine Link.after_of_kept (.nothing server) (fun _ => connect_isInStep server connection)
    (fun _ => disconnect_isInStep server) ?_ acts steady
  exact fun steady kept => steady.of_kept kept

end

/-- After any acts a link is connected exactly if it has a driver.  A link that is connected answers
its driver when asked to connect, and makes none; one that succeeds to connect has the driver that it
answers, and one that fails has none.  One that is told to disconnect has none either, whether or not
the driver closed, and is not changed by disconnecting again.  On a link that is not connected,
statements, sessions and constraints are refused before anything reaches the server. -/
theorem Link.after_stands (server : Server σ) (connection : Connection) (state : σ)
    (acts : List (Act server)) :
    let link := Link.after connection { state } acts
    (link.connected = link.driver.isSome ∧ link.isConnected = link.driver.isSome) ∧
      (link.isConnected = true → ∃ driver, link.driver = some driver ∧
        (connect server connection).run link = (.ok driver, link)) ∧
      (∀ driver after, (connect server connection).run link = (.ok driver, after) →
        after.isConnected = true ∧ after.driver = some driver) ∧
      (∀ interruption after, (connect server connection).run link = (.error interruption, after) →
        after.isConnected = false ∧ after.driver = none) ∧
      (∀ result after, (disconnect server).run link = (result, after) →
        after.isConnected = false ∧ after.driver = none ∧
          (disconnect server).run after = (.ok (), after)) ∧
      (link.isConnected = false →
        (∀ statements writes, statements ≠ [] →
          (execute server connection statements writes).run link =
            (.error (.store .notConnected), link)) ∧
        (∀ {α : Type} (work : Access σ α), (session server connection work).run link =
          (.error (.store .notConnected), link)) ∧
        (∀ model features, (createAllConstraints server connection model features).run link =
          (.error (.store .notConnected), link)) ∧
        StoreFault.notConnected.kind = "DatabaseConnectionError") := by
  intro link
  have start : Link.IsInStep { state } := rfl
  have steady : link.IsInStep := start.after acts
  refine ⟨⟨steady, steady.isConnected_eq⟩, ?_, ?_, ?_, ?_, ?_⟩
  · intro connected
    obtain ⟨mark, some_⟩ := Bool.and_eq_true_iff.mp connected
    obtain ⟨driver, known⟩ := Option.isSome_iff_exists.mp some_
    exact ⟨driver, known, run_connect_of_connected server connection known mark⟩
  · intro driver after ran
    have settled := connect_settles server connection steady ran
    unfold Link.isConnected
    rw [settled.1, settled.2]
    exact ⟨rfl, rfl⟩
  · intro interruption after ran
    have settled := connect_settles server connection steady ran
    unfold Link.isConnected
    rw [settled.1, settled.2]
    exact ⟨rfl, rfl⟩
  · intro result after ran
    have cleared := disconnect_clears server steady
    rw [ran] at cleared
    unfold Link.isConnected
    rw [cleared.1, cleared.2]
    exact ⟨rfl, rfl, run_disconnect_of_unconnected server cleared.1⟩
  · intro apart
    have unknown := steady.driver_eq_none apart
    refine ⟨?_, fun work => run_needing_driver unknown,
      fun model features => run_needing_driver unknown, rfl⟩
    intro statements writes some_
    exact run_execute_of_unconnected server connection writes some_ unknown

/-- A server that is reached at the second attempt, by a driver that fails to close. -/
def relinking : Link Script :=
  { state := { fates := [.unverified .unavailable, .unclosed] } }

theorem Link.after_stands_relinking :
    let connected := relinking.after {} ([.connect] : List (Act Server.scripted))
    let link := relinking.after {} ([.connect, .disconnect] : List (Act Server.scripted))
    (connected.isConnected = true ∧ connected.driver = some 2) ∧
      (link.isConnected = false ∧ link.asked = 2) ∧
      (disconnect Server.scripted).run link = (.ok (), link) ∧
      (execute Server.scripted {} [{ text := "RETURN 1 AS one" }] false).run link =
        (.error (.store .notConnected), link) := by
  intro connected link
  have apart : link.isConnected = false := by decide +kernel
  have unknown : link.driver = none := by decide +kernel
  obtain ⟨-, -, -, -, -, refused⟩ := Link.after_stands Server.scripted {} _ [.connect, .disconnect]
  refine ⟨by decide +kernel, ⟨apart, by decide +kernel⟩,
    run_disconnect_of_unconnected Server.scripted unknown, ?_⟩
  exact (refused apart).1 _ _ (List.cons_ne_nil _ _)

end GraphGateway.Store
