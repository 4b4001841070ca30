import GraphGateway.Request.Fault

/-!
What can go wrong between the gateway and its database.  A server refuses with a fault of its own;
the store tells what the gateway makes of it; and an interruption is whatever ends an access early.
-/
namespace GraphGateway.Store

/-- A fault of the server or of the way to it. -/
inductive ServerFault where
  | authentication
  | unavailable
  | system
  | failure (message : String)
  deriving DecidableEq, Repr

namespace ServerFault

def message : ServerFault → String
  | authentication => "authentication failed"
  | unavailable => "service unavailable"
  | system => "system error"
  | failure message => message

/-- The word for the kind of a fault. -/
def kind : ServerFault → String
  | authentication => "AuthError"
  | unavailable => "ServiceUnavailable"
  | system => "OSError"
  | failure _ => "DatabaseFailure"

/-- Whether a transaction that ends with the fault may be begun again. -/
def isPassing : ServerFault → Bool
  | unavailable => true
  | _ => false

end ServerFault

inductive StoreFault where
  | general (reason : String)
  /-- There is no connection, or none could be made to `uri`. -/
  | connection (reason : String) (uri : Option String) (attempts : Int) (last : Option ServerFault)
  /-- Constraints or indices were not created. -/
  | initialization (reason : String) (failed : List String)
  deriving DecidableEq, Repr

namespace StoreFault

/-- The address and the number of attempts are told if there is an address. -/
def message : StoreFault → String
  | general reason => reason
  | connection reason uri attempts _ =>
      match Request.Fault.place? uri with
      | some uri => s!"{reason} (uri={uri}, attempts={attempts})"
      | none => reason
  | initialization reason _ => reason

/-- The word for the kind of a fault. -/
def kind : StoreFault → String
  | general _ => "DatabaseError"
  | connection _ _ _ _ => "DatabaseConnectionError"
  | initialization _ _ => "SchemaInitializationError"

/-- The parts of a fault by name. -/
def details : StoreFault → Entries Value
  | general _ => []
  | connection _ uri attempts last =>
      [("uri", .textOrNull uri), ("attempts", .int attempts),
       ("last_error", .textOrNull (last.map ServerFault.kind))]
  | initialization _ failed => [("failed_elements", .list (failed.map .text))]

def notConnected : StoreFault :=
  .connection "Not connected. Call connect() first." none 1 none

def refused (uri : String) (attempts : Int) : StoreFault :=
  .connection s!"Authentication failed for Neo4j at {uri}" (some uri) attempts
    (some .authentication)

def unreached (uri : String) (attempts : Int) (last : Option ServerFault) : StoreFault :=
  .connection s!"Failed to connect to Neo4j at {uri} after {attempts} attempts" (some uri) attempts
    last

end StoreFault

/-- Why an access to the database ended early. -/
inductive Interruption where
  /-- The request, or the rows that came for it, cannot be handled. -/
  | request (failure : Request.Failure)
  | server (fault : ServerFault)
  | store (fault : StoreFault)
  /-- A driver was needed where there is none. -/
  | noDriver

namespace Interruption

/-- The text of what the server or the store says. -/
def message : Interruption → String
  | server fault => fault.message
  | store fault => fault.message
  | _ => ""

end Interruption

end GraphGateway.Store
