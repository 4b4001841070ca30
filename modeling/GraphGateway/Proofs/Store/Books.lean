import GraphGateway.Proofs.Store.Standing

/-!
Drivers that are left open.  A server that keeps books writes down which drivers it made, which of
them it was asked to close, and which did not reach it and why.  Whatever is done with a link to such
a server, the drivers that are open are the one in use and those that were not verified for another
reason than refused credentials, a server that is unavailable or a fault of the system: such a reason
ends the attempt before the driver is closed.
-/
namespace GraphGateway.Store

open Access
open Settings (Connection)

/-- What a server writes down of its drivers. -/
structure Books where
  made : List Nat := []
  closed : List Nat := []
  /-- The drivers that were not verified, with the reason. -/
  unverified : List (Nat × ServerFault) := []

namespace Books

/-- A driver that was made is open until it is asked to close, even if it fails to. -/
def IsOpen (books : Books) (driver : Nat) : Prop :=
  driver ∈ books.made ∧ driver ∉ books.closed

instance (books : Books) (driver : Nat) : Decidable (books.IsOpen driver) :=
  inferInstanceAs (Decidable (_ ∧ _))

/-- A driver strays if it was not verified and nobody expected the reason. -/
def Strays (books : Books) (driver : Nat) : Prop :=
  ∃ message, (driver, .failure message) ∈ books.unverified

def afterMaking (driver : Nat) : Except ServerFault Unit → Books → Books
  | .ok (), books => { books with made := driver :: books.made }
  | .error _, books => books

def afterVerifying (driver : Nat) : Except ServerFault Unit → Books → Books
  | .ok (), books => books
  | .error fault, books => { books with unverified := (driver, fault) :: books.unverified }

def afterClosing (driver : Nat) (books : Books) : Books :=
  { books with closed := driver :: books.closed }

end Books

/-- Writes something down beside a reply. -/
def Reply.writing {σ α : Type} (request : Reply σ α) (write : Except ServerFault α → Books → Books) :
    Reply (σ × Books) α := fun (state, books) =>
  ((request state).1, (request state).2, write (request state).1 books)

/-- The server with books on its drivers; it replies as it does without them. -/
def Server.keepingBooks {σ : Type} (server : Server σ) : Server (σ × Books) where
  makeDriver driver := (server.makeDriver driver).writing (Books.afterMaking driver)
  verifyDriver driver := (server.verifyDriver driver).writing (Books.afterVerifying driver)
  closeDriver driver := (server.closeDriver driver).writing fun _ => .afterClosing driver
  openSession driver := (server.openSession driver).writing fun _ => id
  runAlone text := (server.runAlone text).writing fun _ => id
  run text parameters := (server.run text parameters).writing fun _ => id
  commit := server.commit.writing fun _ => id
  retries := server.retries
  patience := server.patience

section

variable {σ : Type}

/-- Sessions write nothing into the books. -/
theorem Server.keepingBooks_sessionsKeep (server : Server σ) :
    server.keepingBooks.SessionsKeep Prod.snd where
  opening _ _ := rfl
  runningAlone _ _ := rfl
  running _ _ _ := rfl
  committing _ := rfl

/-- The books of a server, where `inUse` is the driver in use and `asked` drivers were asked for. -/
structure Books.Tell (books : Books) (inUse : Option Nat) (asked : Nat) : Prop where
  made_le : ∀ driver ∈ books.made, driver ≤ asked
  closed_le : ∀ driver ∈ books.closed, driver ≤ asked
  distinct : books.made.Nodup
  open_iff : ∀ driver, books.IsOpen driver ↔ inUse = some driver ∨ books.Strays driver
  verified : ∀ driver, inUse = some driver → ¬ books.Strays driver

namespace Books.Tell

variable {books : Books} {asked : Nat}

theorem start : Books.Tell {} none 0 where
  made_le _ member := absurd member List.not_mem_nil
  closed_le _ member := absurd member List.not_mem_nil
  distinct := .nil
  open_iff driver := by simp [Books.IsOpen, Books.Strays]
  verified _ known := by cases known

theorem fresh_not_made (tell : books.Tell none asked) : asked + 1 ∉ books.made :=
  fun member => absurd (tell.made_le _ member) (Nat.not_succ_le_self asked)

theorem fresh_not_closed (tell : books.Tell none asked) : asked + 1 ∉ books.closed :=
  fun member => absurd (tell.closed_le _ member) (Nat.not_succ_le_self asked)

theorem fresh_not_stray (tell : books.Tell none asked) : ¬ books.Strays (asked + 1) :=
  fun strays => tell.fresh_not_made ((tell.open_iff _).mpr (.inr strays)).1

/-- A driver was asked for and not made. -/
theorem unmade (tell : books.Tell none asked) : books.Tell none (asked + 1) where
  made_le driver member := Nat.le_succ_of_le (tell.made_le driver member)
  closed_le driver member := Nat.le_succ_of_le (tell.closed_le driver member)
  distinct := tell.distinct
  open_iff := tell.open_iff
  verified := tell.verified

/-- The numbers of drivers that were made or closed are those that were asked for. -/
theorem le_after_making (tell : books.Tell none asked) :
    (∀ driver ∈ (asked + 1) :: books.made, driver ≤ asked + 1) ∧
      ((asked + 1) :: books.made).Nodup := by
  refine ⟨?_, List.nodup_cons.mpr ⟨tell.fresh_not_made, tell.distinct⟩⟩
  intro driver member
  rcases List.mem_cons.mp member with rfl | member
  · exact Nat.le_refl _
  · exact Nat.le_succ_of_le (tell.made_le driver member)

/-- A driver was made and verified, and is in use. -/
theorem connected (tell : books.Tell none asked) :
    Books.Tell (.afterMaking (asked + 1) (.ok ()) books) (some (asked + 1)) (asked + 1) where
  made_le := tell.le_after_making.1
  closed_le driver member := Nat.le_succ_of_le (tell.closed_le driver member)
  distinct := tell.le_after_making.2
  open_iff driver := by
    have before := tell.open_iff driver
    have fresh := tell.fresh_not_closed
    unfold Books.IsOpen at before ⊢
    simp only [Books.afterMaking, List.mem_cons, Option.some.injEq]
    change _ ↔ asked + 1 = driver ∨ books.Strays driver
    by_cases new : asked + 1 = driver
    · subst new
      simp [fresh]
    · simpa [new, Ne.symm new] using before
  verified driver known := by
    cases known
    exact tell.fresh_not_stray

/-- A driver was made that did not reach the server for a reason that nobody expected. -/
theorem strayed (tell : books.Tell none asked) (message : String) :
    Books.Tell
      (.afterVerifying (asked + 1) (.error (.failure message))
        (.afterMaking (asked + 1) (.ok ()) books)) none (asked + 1) where
  made_le := tell.le_after_making.1
  closed_le driver member := Nat.le_succ_of_le (tell.closed_le driver member)
  distinct := tell.le_after_making.2
  open_iff driver := by
    have before := tell.open_iff driver
    have fresh := tell.fresh_not_closed
    unfold Books.IsOpen Books.Strays at before ⊢
    simp only [Books.afterVerifying, Books.afterMaking, List.mem_cons]
    by_cases new : driver = asked + 1
    · subst new
      simp [fresh]
    · simpa [new] using before
  verified driver known := by cases known

/-- A driver was made that did not reach the server for an expected reason, and was closed. -/
theorem givenUp (tell : books.Tell none asked) {fault : ServerFault}
    (expected : ∀ message, fault ≠ .failure message) :
    Books.Tell
      (.afterClosing (asked + 1)
        (.afterVerifying (asked + 1) (.error fault)
          (.afterMaking (asked + 1) (.ok ()) books))) none (asked + 1) where
  made_le := tell.le_after_making.1
  closed_le driver member := by
    rcases List.mem_cons.mp member with rfl | member
    · exact Nat.le_refl _
    · exact Nat.le_succ_of_le (tell.closed_le driver member)
  distinct := tell.le_after_making.2
  open_iff driver := by
    have before := tell.open_iff driver
    have fresh := tell.fresh_not_stray
    unfold Books.IsOpen Books.Strays at before ⊢
    unfold Books.Strays at fresh
    simp only [Books.afterClosing, Books.afterVerifying, Books.afterMaking, List.mem_cons]
    by_cases new : driver = asked + 1
    · subst new
      simpa [Ne.symm (expected _)] using fresh
    · simpa [new] using before
  verified driver known := by cases known

/-- The driver in use was closed. -/
theorem disconnected {driver : Nat} (tell : books.Tell (some driver) asked) :
    Books.Tell (.afterClosing driver books) none asked where
  made_le := tell.made_le
  closed_le other member := by
    rcases List.mem_cons.mp member with rfl | member
    · exact tell.made_le _ ((tell.open_iff _).mpr (.inl rfl)).1
    · exact tell.closed_le other member
  distinct := tell.distinct
  open_iff other := by
    have before := tell.open_iff other
    have verified := tell.verified driver rfl
    unfold Books.IsOpen at before ⊢
    simp only [Books.afterClosing, List.mem_cons]
    change _ ↔ none = some other ∨ books.Strays other
    by_cases same : other = driver
    · subst same
      simp [verified]
    · simpa [same, Ne.symm same] using before
  verified other known := by cases known

end Books.Tell

/-- What stands in the books behind a reply. -/
theorem Reply.writing_books {α : Type} {request : Reply σ α}
    {write : Except ServerFault α → Books → Books} {start next : σ × Books}
    {reply : Except ServerFault α} (replied : request.writing write start = (reply, next)) :
    next.2 = write reply start.2 := by
  cases replied
  rfl

variable {server : Server σ} {connection : Connection} {link : Link (σ × Books)}

/-- The books of the server of a link, told with the driver in use. -/
def Link.TellsOf (link : Link (σ × Books)) (inUse : Option Nat) : Prop :=
  link.state.2.Tell inUse link.asked

theorem Attempted.tells_connected {driver : Nat} {after : Link (σ × Books)}
    (attempted : Attempted server.keepingBooks connection link (.connected driver) after)
    (tell : link.TellsOf none) : after.TellsOf (some driver) := by
  cases attempted with
  | connected making verifying =>
      change Books.Tell _ (some (link.asked + 1)) (link.asked + 1)
      rw [Reply.writing_books verifying, Reply.writing_books making]
      exact Books.Tell.connected tell

/-- A driver that strays is left open. -/
theorem Attempted.tells_strayed {driver : Option Nat} {message : String} {after : Link (σ × Books)}
    (attempted : Attempted server.keepingBooks connection link
      (.failed driver (.failure message)) after)
    (tell : link.TellsOf none) : after.TellsOf none := by
  cases attempted with
  | unmade making =>
      change Books.Tell _ none (link.asked + 1)
      rw [Reply.writing_books making]
      exact Books.Tell.unmade tell
  | unverified making verifying =>
      change Books.Tell _ none (link.asked + 1)
      rw [Reply.writing_books verifying, Reply.writing_books making]
      exact Books.Tell.strayed tell message

/-- A driver that failed for an expected reason is closed, if there is one. -/
theorem Attempted.tells_closed {driver : Option Nat} {fault : ServerFault}
    {after closed : Link (σ × Books)} {reply : Except Interruption Unit}
    (attempted : Attempted server.keepingBooks connection link (.failed driver fault) after)
    (expected : ∀ message, fault ≠ .failure message)
    (closing : (closeMade server.keepingBooks driver).run after = (reply, closed))
    (tell : link.TellsOf none) : closed.TellsOf none := by
  cases attempted with
  | unmade making =>
      cases closing
      change Books.Tell _ none (link.asked + 1)
      rw [Reply.writing_books making]
      exact Books.Tell.unmade tell
  | unverified making verifying =>
      unfold closeMade at closing
      rw [run_close] at closing
      cases closing
      change Books.Tell (.afterClosing _ _) none (link.asked + 1)
      rw [Reply.writing_books verifying, Reply.writing_books making]
      exact Books.Tell.givenUp tell expected

/-- However attempts go on and end, the books tell which drivers are open. -/
theorem Tried.tells {made : Nat} {delay : Float} {last : Option ServerFault} {left : Nat}
    {final : Link (σ × Books)} {result : Except Interruption Nat}
    (tried : Tried server.keepingBooks connection made delay last left link result final)
    (tell : link.TellsOf none) : final.TellsOf result.toOption := by
  induction tried with
  | exhausted => exact tell
  | connected attempted => exact attempted.tells_connected tell
  | failed attempted => exact attempted.tells_strayed tell
  | unclosed attempted known closing => exact attempted.tells_closed known closing tell
  | refused attempted closing =>
      exact attempted.tells_closed (fun _ same => ServerFault.noConfusion same) closing tell
  | @again _ _ _ left _ fault _ _ closed _ _ attempted passing closing more ih =>
      have expected : ∀ message, fault ≠ .failure message := by
        rcases passing with rfl | rfl <;> exact fun _ same => ServerFault.noConfusion same
      have kept := attempted.tells_closed expected closing tell
      refine ih ?_
      by_cases spent : left = 0
      · rw [if_pos spent]
        exact kept
      · rw [if_neg spent]
        exact kept

/-- A link in step with books that tell which drivers are open. -/
structure Link.IsTold (link : Link (σ × Books)) : Prop where
  steady : link.IsInStep
  tells : link.TellsOf link.driver

theorem connect_isTold (told : link.IsTold) :
    ((connect server.keepingBooks connection).run link).2.IsTold := by
  refine ⟨connect_isInStep server.keepingBooks connection told.steady, ?_⟩
  rcases ran : (connect server.keepingBooks connection).run link with ⟨result, after⟩
  have settled := connect_settles server.keepingBooks connection told.steady ran
  cases known : link.driver with
  | some driver =>
      have mark : link.connected = true := by
        rw [told.steady, known]
        rfl
      rw [run_connect_of_connected server.keepingBooks connection known mark] at ran
      cases ran
      exact told.tells
  | none =>
      obtain ⟨_, _, tried, tries⟩ := run_attempts server.keepingBooks connection 0
        connection.retryDelay none connection.attempts.toNat link
      rw [run_connect_of_unconnected server.keepingBooks connection known, tries] at ran
      cases ran
      have tells := tried.tells (known ▸ told.tells)
      cases result with
      | ok driver =>
          rw [settled.1]
          exact tells
      | error interruption =>
          rw [settled.1]
          exact tells

theorem disconnect_isTold (told : link.IsTold) :
    ((disconnect server.keepingBooks).run link).2.IsTold := by
  refine ⟨disconnect_isInStep server.keepingBooks told.steady, ?_⟩
  cases known : link.driver with
  | none =>
      rw [run_disconnect_of_unconnected server.keepingBooks known]
      exact told.tells
  | some driver =>
      rw [run_disconnect_of_connected server.keepingBooks known]
      have tells := told.tells
      rw [known] at tells
      exact Books.Tell.disconnected tells

end

/-- After any acts the open drivers are the one in use and those that strayed, and no driver was made
twice. -/
theorem Books.isOpen_iff {σ : Type} (server : Server σ) (connection : Connection) (state : σ)
    (acts : List (Act server.keepingBooks)) :
    let link := Link.after connection { state := (state, {}) } acts
    link.state.2.made.Nodup ∧
      ∀ driver, link.state.2.IsOpen driver ↔
        link.driver = some driver ∨ link.state.2.Strays driver := by
  intro link
  have start : Link.IsTold { state := (state, ({} : Books)) } := ⟨rfl, .start⟩
  have told : link.IsTold := by
    refine Link.after_of_kept server.keepingBooks_sessionsKeep (fun _ => connect_isTold)
      (fun _ => disconnect_isTold) ?_ acts start
    intro before after told kept
    refine ⟨told.steady.of_kept kept, ?_⟩
    unfold Link.TellsOf
    rw [kept.shown, kept.driver, kept.asked]
    exact told.tells
  exact ⟨told.tells.distinct, told.tells.open_iff⟩

/-- A driver that is not verified for a reason that nobody expected stays open, and is not in use. -/
theorem Books.exists_open_unused :
    let link := Link.after {} { state := (({ fates := [.unverified (.failure "other")] } : Script), {}) }
      ([.connect] : List (Act Server.scripted.keepingBooks))
    link.state.2.IsOpen 1 ∧ link.driver = none := by
  decide +kernel

end GraphGateway.Store
