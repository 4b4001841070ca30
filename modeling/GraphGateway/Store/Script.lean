import GraphGateway.Store.Session

/-!
A server that replies from a script: what becomes of each driver, which statements are refused, and
the rows of those that run.  What the script does not tell goes well.
-/
namespace GraphGateway.Store

/-- What becomes of a driver. -/
inductive DriverFate where
  | good
  | unmade (fault : ServerFault)
  | unverified (fault : ServerFault)
  | unclosed
  deriving DecidableEq, Repr

structure Script where
  /-- The fates of the drivers that will be made, and those of the drivers made so far. -/
  fates : List DriverFate := []
  made : List (Nat × DriverFate) := []
  /-- Texts that no statement may contain. -/
  refused : List String := []
  rows : List Value := []
  sessionFault : Option String := none

namespace Script

def fateOf (script : Script) (driver : Nat) : DriverFate :=
  match script.made.find? (·.1 == driver) with
  | some entry => entry.2
  | none => .good

def makeDriver (driver : Nat) : Reply Script Unit := fun script =>
  let fate := script.fates.headD .good
  let script := { script with fates := script.fates.tail, made := (driver, fate) :: script.made }
  match fate with
  | .unmade fault => (.error fault, script)
  | _ => (.ok (), script)

def verifyDriver (driver : Nat) : Reply Script Unit := fun script =>
  match script.fateOf driver with
  | .unverified fault => (.error fault, script)
  | _ => (.ok (), script)

def closeDriver (driver : Nat) : Reply Script Unit := fun script =>
  match script.fateOf driver with
  | .unclosed => (.error (.failure "close failed"), script)
  | _ => (.ok (), script)

def openSession : Reply Script Unit := fun script =>
  match script.sessionFault with
  | some message => (.error (.failure message), script)
  | none => (.ok (), script)

/-- Whether a text stands somewhere in another one. -/
def occurs (part : List Char) : List Char → Bool
  | [] => part.isEmpty
  | c :: rest => part.isPrefixOf (c :: rest) || occurs part rest

def refuses (script : Script) (text : String) : Bool :=
  script.refused.any fun part => occurs part.toList text.toList

def runAlone (text : String) : Reply Script Unit := fun script =>
  if script.refuses text then (.error (.failure "refused"), script) else (.ok (), script)

def run (text : String) : Reply Script Value := fun script =>
  if script.refuses text then (.error (.failure "refused"), script)
  else (.ok (script.rows.headD (.list [])), { script with rows := script.rows.tail })

end Script

/-- The server that follows its script. -/
def Server.scripted : Server Script where
  makeDriver := Script.makeDriver
  verifyDriver := Script.verifyDriver
  closeDriver := Script.closeDriver
  openSession _ := Script.openSession
  runAlone := Script.runAlone
  run text _ := Script.run text
  commit script := (.ok (), script)

end GraphGateway.Store
