import GraphGateway.Proofs.Store.Standing
import Mathlib.Logic.Function.Iterate

/-!
How often a connection is tried.  An attempt is followed by another one exactly if its fault may pass
and attempts are left; between the two there is a pause, twice as long each time, and a driver that
was made is closed before it.  What the last attempt came to is what the caller gets.
-/
namespace GraphGateway.Store

open Access
open Settings (Connection)

variable {σ : Type}

/-- Whether another attempt may do better. -/
def ServerFault.mayPass : ServerFault → Bool
  | unavailable => true
  | system => true
  | _ => false

/-- What becomes of an attempt to connect. -/
inductive Ending where
  | reached
  | unmade (fault : ServerFault)
  | unverified (fault : ServerFault)

namespace Ending

def fault? : Ending → Option ServerFault
  | reached => none
  | unmade fault => some fault
  | unverified fault => some fault

def isRetried (ending : Ending) : Bool :=
  ending.fault?.any ServerFault.mayPass

/-- What an attempt with a driver writes to the journal.  A driver that failed is closed, unless the
fault is none that is known. -/
def events (connection : Connection) (driver : Nat) : Ending → List Event
  | reached => [.made driver connection, .verified driver]
  | unmade _ => [.made driver connection]
  | unverified (.failure _) => [.made driver connection, .verified driver]
  | unverified _ => [.made driver connection, .verified driver, .closed driver]

/-- What the caller gets of a last attempt. -/
def verdict (uri : String) (driver : Nat) (attempts : Int) (ending : Ending) :
    Except Interruption Nat :=
  match ending.fault? with
  | none => .ok driver
  | some .authentication => .error (.store (.refused uri attempts))
  | some (.failure message) => .error (.server (.failure message))
  | some fault => .error (.store (.unreached uri attempts (some fault)))

theorem verdict_of_isRetried {ending : Ending} {fault : ServerFault}
    (retried : ending.isRetried = true) (failed : ending.fault? = some fault) (uri : String)
    (driver : Nat) (attempts : Int) :
    ending.verdict uri driver attempts = .error (.store (.unreached uri attempts (some fault))) := by
  unfold isRetried at retried
  unfold verdict
  rw [failed] at retried ⊢
  cases fault with
  | authentication => cases retried
  | failure message => cases retried
  | unavailable => rfl
  | system => rfl

end Ending

/-- What the server replies to an attempt that ends in a way; closing a driver succeeds. -/
inductive Server.Ends (server : Server σ) (driver : Nat) (state : σ) : Ending → σ → Prop where
  | reached {made next : σ} (making : server.makeDriver driver state = (.ok (), made))
      (verifying : server.verifyDriver driver made = (.ok (), next)) :
      Ends server driver state .reached next
  | unmade {fault : ServerFault} {next : σ}
      (making : server.makeDriver driver state = (.error fault, next)) :
      Ends server driver state (.unmade fault) next
  | unknown {message : String} {made next : σ}
      (making : server.makeDriver driver state = (.ok (), made))
      (verifying : server.verifyDriver driver made = (.error (.failure message), next)) :
      Ends server driver state (.unverified (.failure message)) next
  | unverified {fault : ServerFault} {made verified next : σ}
      (making : server.makeDriver driver state = (.ok (), made))
      (verifying : server.verifyDriver driver made = (.error fault, verified))
      (known : ∀ message, fault ≠ .failure message)
      (closing : server.closeDriver driver verified = (.ok (), next)) :
      Ends server driver state (.unverified fault) next

/-- The attempts on a server end in these ways, one after another, as long as they are retried. -/
inductive Server.Follows (server : Server σ) : Nat → σ → List Ending → Prop where
  | nil {driver : Nat} {state : σ} : Follows server driver state []
  | last {driver : Nat} {state next : σ} {ending : Ending} {rest : List Ending}
      (ends : server.Ends driver state ending next) (final : ending.isRetried = false) :
      Follows server driver state (ending :: rest)
  | again {driver : Nat} {state next : σ} {ending : Ending} {rest : List Ending}
      (ends : server.Ends driver state ending next) (retried : ending.isRetried = true)
      (more : Follows server (driver + 1) next rest) :
      Follows server driver state (ending :: rest)

theorem Server.Follows.cons {server : Server σ} {driver : Nat} {state next : σ} {ending : Ending}
    {rest : List Ending} (ends : server.Ends driver state ending next)
    (more : server.Follows (driver + 1) next rest) :
    server.Follows driver state (ending :: rest) := by
  cases retried : ending.isRetried with
  | true => exact .again ends retried more
  | false => exact .last ends retried

/-- What attempts write to the journal: behind each of the earlier ones there is a pause, at first of
`delay` seconds and then twice as long each time, and behind the last one there is none. -/
def course (connection : Connection) (driver : Nat) (delay : Float) (earlier : List Ending)
    (last : Ending) : List Event :=
  (earlier.zipIdx.flatMap fun (ending, place) =>
    ending.events connection (driver + place) ++ [.paused ((· * 2)^[place] delay)]) ++
  last.events connection (driver + earlier.length)

theorem course_cons (connection : Connection) (driver : Nat) (delay : Float) (first last : Ending)
    (rest : List Ending) :
    course connection driver delay (first :: rest) last =
      first.events connection driver ++
        .paused delay :: course connection (driver + 1) (delay * 2) rest last := by
  unfold course
  rw [List.zipIdx_cons, List.flatMap_cons, List.zipIdx_succ, List.flatMap_map, List.length_cons,
    Nat.add_comm rest.length, ← Nat.add_assoc]
  simp only [Nat.add_zero, Function.iterate_zero, id_eq, List.append_assoc, List.cons_append,
    List.nil_append, Function.iterate_succ_apply, Nat.add_assoc, Nat.add_comm 1]

section

variable {server : Server σ} {connection : Connection}

/-- What an attempt comes to is settled by the replies. -/
theorem Attempted.unique {link after final : Link σ} {came other : Attempt}
    (one : Attempted server connection link came after)
    (another : Attempted server connection link other final) :
    other = came ∧ final = after := by
  cases one with
  | unmade making =>
      cases another with
      | unmade again =>
          rw [making] at again
          cases again
          exact ⟨rfl, rfl⟩
      | unverified again =>
          rw [making] at again
          cases again
      | connected again =>
          rw [making] at again
          cases again
  | unverified making verifying =>
      cases another with
      | unmade again =>
          rw [making] at again
          cases again
      | unverified again verified =>
          rw [making] at again
          cases again
          rw [verifying] at verified
          cases verified
          exact ⟨rfl, rfl⟩
      | connected again verified =>
          rw [making] at again
          cases again
          rw [verifying] at verified
          cases verified
  | connected making verifying =>
      cases another with
      | unmade again =>
          rw [making] at again
          cases again
      | unverified again verified =>
          rw [making] at again
          cases again
          rw [verifying] at verified
          cases verified
      | connected again verified =>
          rw [making] at again
          cases again
          rw [verifying] at verified
          cases verified
          exact ⟨rfl, rfl⟩

theorem run_attempt_of {link after : Link σ} {came : Attempt}
    (attempted : Attempted server connection link came after) :
    (attempt server connection).run link = (.ok came, after) := by
  obtain ⟨other, final, again, ran⟩ := run_attempt server connection link
  obtain ⟨rfl, rfl⟩ := attempted.unique again
  exact ran

theorem run_closeMade_of {driver : Nat} {link : Link σ} {next : σ}
    (closing : server.closeDriver driver link.state = (.ok (), next)) :
    (closeMade server (some driver)).run link =
      (.ok (), { link with state := next, journal := link.journal ++ [.closed driver] }) := by
  unfold closeMade
  rw [run_close, closing]
  rfl

variable {link : Link σ} {ending : Ending} {next : σ}

/-- The link behind an attempt. -/
def Link.behind (link : Link σ) (connection : Connection) (ending : Ending) (next : σ) : Link σ :=
  { link with
    state := next
    asked := link.asked + 1
    journal := link.journal ++ ending.events connection (link.asked + 1) }

/-- Behind a fault that may pass, the driver is closed and the attempts that are left are made, with a
pause before them. -/
theorem run_attempts_failed {driver : Option Nat} {fault : ServerFault} {after closed : Link σ}
    (made : Nat) (delay : Float) (last : Option ServerFault) (left : Nat)
    (ran : (attempt server connection).run link = (.ok (.failed driver fault), after))
    (passing : fault.mayPass = true)
    (closing : (closeMade server driver).run after = (.ok (), closed)) :
    (attempts server connection made delay last (left + 1)).run link =
      if left = 0 then (attempts server connection (made + 1) delay (some fault) left).run closed
      else (attempts server connection (made + 1) (delay * 2) (some fault) left).run
        { closed with journal := closed.journal ++ [.paused delay] } := by
  have further : (do
      closeMade server driver
      if left = 0 then attempts server connection (made + 1) delay (some fault) left
      else
        note (.paused delay)
        attempts server connection (made + 1) (delay * 2) (some fault) left :
      Access σ Nat).run after =
        if left = 0 then (attempts server connection (made + 1) delay (some fault) left).run closed
        else (attempts server connection (made + 1) (delay * 2) (some fault) left).run
          { closed with journal := closed.journal ++ [.paused delay] } := by
    rw [run_bind_ok closing]
    split
    · rfl
    · rw [run_bind_ok (run_note _ _)]
  rw [attempts, run_bind_ok ran]
  cases fault with
  | authentication => cases passing
  | failure message => cases passing
  | unavailable => exact further
  | system => exact further

theorem run_attempts_again (connection : Connection) (made : Nat) (delay : Float) (last : Option ServerFault) (left : Nat)
    (ends : server.Ends (link.asked + 1) link.state ending next)
    (retried : ending.isRetried = true) :
    ∃ fault, ending.fault? = some fault ∧
      (attempts server connection made delay last (left + 1)).run link =
        if left = 0 then
          (attempts server connection (made + 1) delay (some fault) left).run
            (link.behind connection ending next)
        else (attempts server connection (made + 1) (delay * 2) (some fault) left).run
          { link.behind connection ending next with
            journal := (link.behind connection ending next).journal ++ [.paused delay] } := by
  cases ends with
  | reached => cases retried
  | unknown => cases retried
  | @unmade fault _ making =>
      exact ⟨fault, rfl, run_attempts_failed made delay last left (run_attempt_of (.unmade making))
        retried rfl⟩
  | @unverified fault _ _ _ making verifying known closing =>
      refine ⟨fault, rfl, run_attempts_failed made delay last left
        (run_attempt_of (.unverified making verifying)) retried ?_⟩
      rw [run_closeMade_of closing]
      cases fault with
      | failure message => exact absurd rfl (known message)
      | authentication => cases retried
      | unavailable => simp [Link.behind, Link.verifying, Link.asking, Ending.events]
      | system => simp [Link.behind, Link.verifying, Link.asking, Ending.events]

/-- An attempt that is not retried is the last one, and tells the caller what came of it. -/
theorem run_attempts_last (connection : Connection) (made : Nat) (delay : Float) (last : Option ServerFault) (left : Nat)
    (ends : server.Ends (link.asked + 1) link.state ending next)
    (final : ending.isRetried = false) :
    ∃ after, (attempts server connection made delay last (left + 1)).run link =
        (ending.verdict connection.uri (link.asked + 1) (made + 1), after) ∧
      after.asked = link.asked + 1 ∧
      after.journal = link.journal ++ ending.events connection (link.asked + 1) := by
  unfold attempts
  cases ends with
  | reached making verifying =>
      rw [run_bind_ok (run_attempt_of (.connected making verifying))]
      refine ⟨_, rfl, rfl, ?_⟩
      simp [Link.verifying, Link.asking, Ending.events]
  | unknown making verifying =>
      rw [run_bind_ok (run_attempt_of (.unverified making verifying))]
      refine ⟨_, rfl, rfl, ?_⟩
      simp [Link.verifying, Link.asking, Ending.events]
  | @unmade fault _ making =>
      rw [run_bind_ok (run_attempt_of (.unmade making))]
      cases fault with
      | unavailable => cases final
      | system => cases final
      | authentication => exact ⟨_, rfl, rfl, rfl⟩
      | failure message => exact ⟨_, rfl, rfl, rfl⟩
  | @unverified fault _ _ _ making verifying known closing =>
      rw [run_bind_ok (run_attempt_of (.unverified making verifying))]
      cases fault with
      | unavailable => cases final
      | system => cases final
      | failure message => exact absurd rfl (known message)
      | authentication =>
          dsimp only
          rw [run_bind_ok (run_closeMade_of closing)]
          refine ⟨_, rfl, rfl, ?_⟩
          simp [Link.verifying, Link.asking, Ending.events]

/-- Attempts on a server that follows a list of endings go through the list, up to the first ending
that is not retried or to the last attempt that is left. -/
theorem run_attempts_follow {driver : Nat} {state : σ} {endings : List Ending}
    (follows : server.Follows driver state endings) (link : Link σ) (made : Nat) (delay : Float)
    (last : Option ServerFault) (left : Nat) (asked : driver = link.asked + 1)
    (begins : state = link.state)
    (enough : left < endings.length ∨ ∃ ending ∈ endings, ending.isRetried = false)
    (total : connection.attempts = made + left + 1) :
    ∃ earlier ending after, (earlier ++ [ending]) <+: endings ∧
      (∀ ending ∈ earlier, ending.isRetried = true) ∧
      (earlier.length = left ∨ earlier.length < left ∧ ending.isRetried = false) ∧
      (attempts server connection made delay last (left + 1)).run link =
        (ending.verdict connection.uri (driver + earlier.length) (made + earlier.length + 1),
          after) ∧
      after.asked = link.asked + earlier.length + 1 ∧
      after.journal = link.journal ++ course connection driver delay earlier ending := by
  induction follows generalizing link made delay last left with
  | nil =>
      rcases enough with impossible | ⟨_, impossible, _⟩
      · cases impossible
      · cases impossible
  | @last _ _ _ ending rest ends final =>
      subst asked begins
      obtain ⟨after, ran, askedAfter, journal⟩ :=
        run_attempts_last connection made delay last left ends final
      refine ⟨[], ending, after, ⟨rest, rfl⟩, fun _ none_ => absurd none_ List.not_mem_nil, ?_,
        by simpa using ran, askedAfter, by simpa [course] using journal⟩
      rcases Nat.eq_zero_or_pos left with zero | positive
      · exact .inl zero.symm
      · exact .inr ⟨positive, final⟩
  | @again _ _ next ending rest ends retried more ih =>
      subst asked begins
      obtain ⟨fault, failed, ran⟩ :=
        run_attempts_again connection made delay last left ends retried
      cases left with
      | zero =>
          rw [if_pos rfl] at ran
          refine ⟨[], ending, link.behind connection ending next, ⟨rest, rfl⟩,
            fun _ none_ => absurd none_ List.not_mem_nil, .inl rfl, ran.trans ?_, rfl,
            by simp [course, Link.behind]⟩
          have exhausted : (made + ([] : List Ending).length + 1 : Int) = connection.attempts := total.symm
          rw [Ending.verdict_of_isRetried retried failed, exhausted]
          rfl
      | succ left =>
          rw [if_neg (Nat.succ_ne_zero left)] at ran
          have goesOn : left < rest.length ∨ ∃ ending ∈ rest, ending.isRetried = false := by
            rcases enough with long | ⟨final, member, stays⟩
            · exact .inl (Nat.lt_of_succ_lt_succ long)
            · rcases List.mem_cons.mp member with rfl | later
              · rw [retried] at stays
                cases stays
              · exact .inr ⟨final, later, stays⟩
          obtain ⟨earlier, last, after, within, all, counts, reached, askedAfter, journal⟩ :=
            ih { link.behind connection ending next with
                journal := (link.behind connection ending next).journal ++ [.paused delay] }
              (made + 1) (delay * 2) (some fault) left rfl rfl goesOn (by rw [total]; omega)
          refine ⟨ending :: earlier, last, after, List.cons_prefix_cons.mpr ⟨rfl, within⟩, ?_, ?_,
            ?_, ?_, ?_⟩
          · exact List.forall_mem_cons.mpr ⟨retried, all⟩
          · simpa using counts
          · have driver : link.asked + 1 + 1 + earlier.length =
                link.asked + 1 + (ending :: earlier).length := by
              rw [List.length_cons]
              omega
            have tries : ((made + 1 : Nat) + earlier.length + 1 : Int) =
                made + (ending :: earlier).length + 1 := by
              rw [List.length_cons]
              omega
            rw [ran, reached, driver, tries]
          · rw [askedAfter, List.length_cons]
            change link.asked + 1 + _ + 1 = _
            omega
          · rw [journal, course_cons]
            simp [Link.behind]

end

/-- Connecting tries as often as the connection says. -/
theorem run_connect_follows (server : Server σ) (connection : Connection) {link : Link σ}
    {endings : List Ending} (apart : link.driver = none) (some_ : 1 ≤ connection.attempts)
    (follows : server.Follows (link.asked + 1) link.state endings)
    (enough : connection.attempts ≤ endings.length ∨
      ∃ ending ∈ endings, ending.isRetried = false) :
    ∃ earlier last after, (earlier ++ [last]) <+: endings ∧
      (∀ ending ∈ earlier, ending.isRetried = true) ∧
      (earlier.length + 1 = connection.attempts ∨
        earlier.length + 1 < connection.attempts ∧ last.isRetried = false) ∧
      (connect server connection).run link =
        (last.verdict connection.uri (link.asked + earlier.length + 1) (earlier.length + 1),
          after) ∧
      after.asked = link.asked + earlier.length + 1 ∧
      after.journal =
        link.journal ++ course connection (link.asked + 1) connection.retryDelay earlier last := by
  obtain ⟨left, count⟩ : ∃ left : Nat, connection.attempts = left + 1 :=
    ⟨(connection.attempts - 1).toNat, by omega⟩
  have turns : connection.attempts.toNat = left + 1 := by omega
  have goesOn : left < endings.length ∨ ∃ ending ∈ endings, ending.isRetried = false := by
    rcases enough with long | final
    · exact .inl (by omega)
    · exact .inr final
  have total : connection.attempts = (0 : Nat) + left + 1 := by omega
  obtain ⟨earlier, last, after, within, all, counts, ran, asked, journal⟩ :=
    run_attempts_follow follows link 0 connection.retryDelay none left rfl rfl goesOn total
  refine ⟨earlier, last, after, within, all, ?_, ?_, asked, journal⟩
  · rcases counts with all | ⟨fewer, final⟩
    · exact .inl (by omega)
    · exact .inr ⟨by omega, final⟩
  · rw [run_connect_of_unconnected server connection apart, turns, ran, Nat.add_right_comm]
    simp

/-- What a script tells of a driver with which an attempt ends so. -/
def Ending.fate : Ending → DriverFate
  | reached => .good
  | unmade fault => .unmade fault
  | unverified fault => .unverified fault

/-- Attempts may end in any ways, one after another. -/
theorem scripted_follows (endings : List Ending) (driver : Nat) (script : Script)
    (told : script.fates = endings.map Ending.fate) :
    Server.scripted.Follows driver script endings := by
  induction endings generalizing driver script with
  | nil => exact .nil
  | cons ending rest ih =>
      let after : Script := { script with
        fates := rest.map Ending.fate
        made := (driver, ending.fate) :: script.made }
      have fate : after.fateOf driver = ending.fate := by simp [after, Script.fateOf]
      refine .cons ?_ (ih (driver + 1) after rfl)
      cases ending with
      | reached =>
          have making : Server.scripted.makeDriver driver script = (.ok (), after) := by
            change Script.makeDriver driver script = _
            unfold Script.makeDriver
            rw [told]
            rfl
          have verifying : Server.scripted.verifyDriver driver after = (.ok (), after) := by
            change Script.verifyDriver driver after = _
            unfold Script.verifyDriver
            rw [fate]
            rfl
          exact .reached making verifying
      | unmade fault =>
          apply Server.Ends.unmade
          change Script.makeDriver driver script = _
          unfold Script.makeDriver
          rw [told]
          rfl
      | unverified fault =>
          have making : Server.scripted.makeDriver driver script = (.ok (), after) := by
            change Script.makeDriver driver script = _
            unfold Script.makeDriver
            rw [told]
            rfl
          have verifying : Server.scripted.verifyDriver driver after = (.error fault, after) := by
            change Script.verifyDriver driver after = _
            unfold Script.verifyDriver
            rw [fate]
            rfl
          have closing : Server.scripted.closeDriver driver after = (.ok (), after) := by
            change Script.closeDriver driver after = _
            unfold Script.closeDriver
            rw [fate]
            rfl
          cases fault with
          | failure message => exact .unknown making verifying
          | authentication =>
              exact .unverified making verifying (fun _ => ServerFault.noConfusion) closing
          | unavailable =>
              exact .unverified making verifying (fun _ => ServerFault.noConfusion) closing
          | system => exact .unverified making verifying (fun _ => ServerFault.noConfusion) closing

/-- A server that is reached at the third attempt. -/
def laggingEndings : List Ending :=
  [.unverified .unavailable, .unmade .system, .reached]

def laggingLink : Link Script where
  state := { fates := laggingEndings.map Ending.fate }

theorem run_connect_follows_lagging :
    (laggingLink.driver = none ∧ 1 ≤ ({} : Connection).attempts ∧
      Server.scripted.Follows 1 laggingLink.state laggingEndings ∧
      ({} : Connection).attempts ≤ laggingEndings.length) ∧
    ((connect Server.scripted {}).run laggingLink).1 = .ok 3 ∧
    ((connect Server.scripted {}).run laggingLink).2.journal =
      [.made 1 {}, .verified 1, .closed 1, .paused 1.0, .made 2 {}, .paused (1.0 * 2),
       .made 3 {}, .verified 3] := by
  have apart : laggingLink.driver = none := rfl
  have follows := scripted_follows laggingEndings 1 laggingLink.state rfl
  obtain ⟨earlier, last, after, ⟨rest, within⟩, -, counts, ran, -, journal⟩ :=
    run_connect_follows Server.scripted {} apart (by decide) follows (.inl (by decide))
  refine ⟨⟨apart, by decide, follows, by decide⟩, ?_⟩
  unfold laggingEndings at within
  rcases earlier with _ | ⟨first, _ | ⟨second, _ | ⟨third, more⟩⟩⟩
  · cases within
    rcases counts with all | ⟨-, final⟩
    · exact absurd all (by decide)
    · cases final
  · cases within
    rcases counts with all | ⟨-, final⟩
    · exact absurd all (by decide)
    · cases final
  · cases within
    rw [ran]
    exact ⟨rfl, journal⟩
  · have long := congrArg List.length within
    simp at long

end GraphGateway.Store
