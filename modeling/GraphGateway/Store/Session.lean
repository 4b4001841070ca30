import GraphGateway.Schema.Constraints
import GraphGateway.Statement.Matches
import GraphGateway.Store.Connecting

/-!
Sessions: statements that run alone, and transactions.  All statements of a request run in one
transaction, and the rows of each are verified before it is committed, so that it changes all or
nothing.
-/
namespace GraphGateway.Store

open Access
open Settings (Connection Features)
open Statement (Compiled)

section

variable {σ α : Type} (server : Server σ)

/-- Does some work in a session of a driver, and closes the session. -/
def inSession (driver : Nat) (options : Entries Value) (work : Access σ α) : Access σ α := do
  note (.session options)
  ask (server.openSession driver)
  endingWith work (note .sessionClosed)

def databaseOption (name : Option String) : String × Value :=
  ("database", .textOrNull name)

/-- Does some work in a session of the driver in use. -/
def session (connection : Connection) (work : Access σ α) : Access σ α := do
  let driver ← driverInUse
  inSession server driver
    [databaseOption connection.database, ("fetch_size", .int connection.fetchSize)] work

/-- Runs a statement in a transaction and verifies its rows. -/
def runVerified (statement : Compiled) : Access σ Value := do
  note (.ran statement.text (some statement.parameters))
  let rows ← ask (server.run statement.text statement.parameters)
  match statement.verify rows with
  | .ok () => pure rows
  | .error failure => throw (.request failure)

/-- Runs statements one after another up to the first that fails. -/
def runAll : List Compiled → Access σ (List Value)
  | [] => pure []
  | statement :: rest => do
      let rows ← runVerified server statement
      let others ← runAll rest
      pure (rows :: others)

/-- Runs statements in one transaction and commits it, or rolls it back. -/
def transactionOnce (writes : Bool) (statements : List Compiled) :
    Access σ (Except Interruption (List Value)) := do
  note (.began writes)
  let result ← outcome do
    let rows ← runAll server statements
    ask server.commit
    pure rows
  note (if result.isOk then .committed else .rolledBack)
  pure result

/-- Runs statements in a transaction.  One that ended with a fault that the server lets pass is begun
again as often as allowed. -/
def transaction (writes : Bool) (statements : List Compiled) : Nat → Access σ (List Value)
  | 0 => do
      match ← transactionOnce server writes statements with
      | .ok rows => pure rows
      | .error interruption => throw interruption
  | left + 1 => do
      match ← transactionOnce server writes statements with
      | .ok rows => pure rows
      | .error interruption =>
          if server.retriesAfter interruption then transaction writes statements left
          else throw interruption

/-- Runs the statements of a request; none at all need no database. -/
def execute (connection : Connection) (statements : List Compiled) (writes : Bool) :
    Access σ (List Value) :=
  if statements.isEmpty then pure []
  else session server connection (transaction server writes statements server.patience)

/-- Runs statements that create something, each under the name of what it creates. -/
def createEach (skipFailed : Bool) (done : Entries Bool) : List String → Access σ (Entries Bool)
  | [] => pure done
  | statement :: rest => do
      let name := (Schema.createdName? statement).getD ""
      note (.ran statement none)
      match ← replyTo (server.runAlone statement) with
      | .ok () => createEach skipFailed (done.put name true) rest
      | .error fault =>
          if skipFailed then createEach skipFailed (done.put name false) rest
          else throw (.server fault)

/-- Creates the constraints and indices of a model; answers which of them were created. -/
def createConstraints (driver : Option Nat) (model : Schema.Model) (features : Features)
    (database : Option String) (skipFailed : Bool) : Access σ (Entries Bool) := do
  match driver with
  | none => throw .noDriver
  | some driver =>
      inSession server driver [databaseOption database]
        (createEach server skipFailed [] (model.constraints features ++ model.indices features))

/-- Creates the constraints and indices of a model; all of them have to be created. -/
def createAllConstraints (connection : Connection) (model : Schema.Model) (features : Features) :
    Access σ (Entries Bool) := do
  let driver ← driverInUse
  let creation := createConstraints server (some driver) model features connection.database true
  match ← outcome creation with
  | .error interruption =>
      throw (.store (.initialization s!"Schema initialization failed: {interruption.message}" []))
  | .ok created =>
      match (created.filter (!·.2)).map Prod.fst with
      | [] => pure created
      | failed =>
          throw (.store (.initialization
            s!"Failed to initialize {failed.length} schema elements" failed))

end

end GraphGateway.Store
