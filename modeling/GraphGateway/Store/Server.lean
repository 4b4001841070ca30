import GraphGateway.Store.Fault
import GraphGateway.Settings.Connection

/-!
The database from the gateway's side: a server that replies to requests out of a state of its own,
and a link to it with the driver in use.  Whatever crosses the link is written to its journal, so
that the journal of a run tells all that the database got to see.
-/
namespace GraphGateway.Store

/-- What crosses the link.  Drivers are told apart by their numbers. -/
inductive Event where
  | made (driver : Nat) (connection : Settings.Connection)
  | verified (driver : Nat)
  | closed (driver : Nat)
  | paused (seconds : Float)
  | session (options : Entries Value)
  | sessionClosed
  | ran (text : String) (parameters : Option (Entries Value))
  | began (writes : Bool)
  | committed
  | rolledBack

/-- The reply to a request, and the state of the server after it. -/
abbrev Reply (σ α : Type) := σ → Except ServerFault α × σ

structure Server (σ : Type) where
  makeDriver : Nat → Reply σ Unit
  verifyDriver : Nat → Reply σ Unit
  closeDriver : Nat → Reply σ Unit
  openSession : Nat → Reply σ Unit
  /-- Runs a statement on its own. -/
  runAlone : String → Reply σ Unit
  /-- Runs a statement in a transaction and answers it with its rows. -/
  run : String → Entries Value → Reply σ Value
  commit : Reply σ Unit
  /-- Whether a transaction that ended with a fault may be begun again. -/
  retries : ServerFault → Bool := ServerFault.isPassing
  /-- How often a transaction is begun again. -/
  patience : Nat := 0

/-- Whether a transaction that ended so may be begun again; only faults of the server let it. -/
def Server.retriesAfter {σ : Type} (server : Server σ) : Interruption → Bool
  | .server fault => server.retries fault
  | _ => false

structure Link (σ : Type) where
  state : σ
  /-- How many drivers were asked for. -/
  asked : Nat := 0
  driver : Option Nat := none
  /-- Whether the driver in use was found to reach the server. -/
  connected : Bool := driver.isSome
  journal : List Event := []

def Link.isConnected {σ : Type} (link : Link σ) : Bool :=
  link.connected && link.driver.isSome

/-- A course of requests over a link.  An interruption leaves the link as it is then. -/
abbrev Access (σ α : Type) := ExceptT Interruption (StateM (Link σ)) α

namespace Access

variable {σ α : Type}

/-- Writes to the journal. -/
def note (event : Event) : Access σ Unit :=
  modify fun link => { link with journal := link.journal ++ [event] }

/-- The reply to a request, good or bad. -/
def replyTo (request : Reply σ α) : Access σ (Except ServerFault α) := do
  let link ← get
  let (reply, state) := request link.state
  set { link with state }
  pure reply

/-- The reply to a request; a fault ends the access. -/
def ask (request : Reply σ α) : Access σ α := do
  match ← replyTo request with
  | .ok answer => pure answer
  | .error fault => throw (.server fault)

/-- What comes of an access, be it an interruption. -/
def outcome (access : Access σ α) : Access σ (Except Interruption α) := fun link =>
  let (result, after) := access.run link
  (.ok result, after)

/-- Does the closing whatever came of the access.  An interruption of the closing counts before one
of the access. -/
def endingWith (access : Access σ α) (closing : Access σ Unit) : Access σ α := do
  let result ← outcome access
  closing
  match result with
  | .ok answer => pure answer
  | .error interruption => throw interruption

end Access

end GraphGateway.Store
