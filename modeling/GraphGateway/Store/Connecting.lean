import GraphGateway.Store.Server

/-!
Making and giving up connections.  A server that cannot be reached is tried again after a pause, and
every further pause is twice as long; one that refuses the credentials is not.  A driver that failed
is closed before the next attempt.
-/
namespace GraphGateway.Store

open Access
open Settings (Connection)

/-- What came of one attempt; a driver that failed may have been made. -/
inductive Attempt where
  | connected (driver : Nat)
  | failed (driver : Option Nat) (fault : ServerFault)

section

variable {σ : Type} (server : Server σ) (connection : Connection)

/-- Makes a driver and looks whether it reaches the server. -/
def attempt : Access σ Attempt := do
  let driver := (← get).asked + 1
  modify fun link => { link with asked := driver }
  note (.made driver connection)
  match ← replyTo (server.makeDriver driver) with
  | .error fault => pure (.failed none fault)
  | .ok () =>
      note (.verified driver)
      match ← replyTo (server.verifyDriver driver) with
      | .error fault => pure (.failed (some driver) fault)
      | .ok () => pure (.connected driver)

def close (driver : Nat) : Access σ Unit := do
  note (.closed driver)
  ask (server.closeDriver driver)

/-- Closes a driver that was made. -/
def closeMade : Option Nat → Access σ Unit
  | none => pure ()
  | some driver => close server driver

/-- Attempts to connect until one attempt succeeds or the last one has failed.  The attempts made so
far end with the fault `last`. -/
def attempts (made : Nat) (delay : Float) (last : Option ServerFault) : Nat → Access σ Nat
  | 0 => throw (.store (.unreached connection.uri connection.attempts last))
  | left + 1 => do
      match ← attempt server connection with
      | .connected driver =>
          modify fun link => { link with driver := some driver, connected := true }
          pure driver
      | .failed _ (.failure message) => throw (.server (.failure message))
      | .failed driver .authentication =>
          closeMade server driver
          throw (.store (.refused connection.uri (made + 1)))
      | .failed driver fault =>
          closeMade server driver
          if left = 0 then attempts (made + 1) delay (some fault) left
          else
            note (.paused delay)
            attempts (made + 1) (delay * 2) (some fault) left

/-- The driver in use, or a new one. -/
def connect : Access σ Nat := do
  let link ← get
  match link.driver, link.connected with
  | some driver, true => pure driver
  | _, _ => attempts server connection 0 connection.retryDelay none connection.attempts.toNat

/-- Gives up the driver in use, if there is one, even if it fails to close. -/
def disconnect : Access σ Unit := do
  match (← get).driver with
  | none => pure ()
  | some driver =>
      endingWith (close server driver)
        (modify fun link => { link with driver := none, connected := false })

/-- Does some work while connected. -/
def whileConnected {α : Type} (work : Access σ α) : Access σ α := do
  let _ ← connect server connection
  endingWith work (disconnect server)

end

/-- The driver in use; without one there is no access. -/
def driverInUse {σ : Type} : Access σ Nat := do
  match (← get).driver with
  | some driver => pure driver
  | none => throw (.store .notConnected)

end GraphGateway.Store
