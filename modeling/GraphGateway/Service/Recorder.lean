import GraphGateway.Service.Response

/-!
An executor that keeps a record of its calls and takes its rows from a list.  Like a database it
verifies the rows of a statement before it goes on to the next.
-/
namespace GraphGateway.Service

open Statement (Compiled)

structure Recorder where
  calls : List (Bool × List Compiled) := []
  /-- What the statements to come are answered with; past its end they have no rows. -/
  rows : List Value := []
  /-- The fault of the database that every call meets. -/
  fault : Option String := none

namespace Recorder

/-- The next rows, once they are verified. -/
def nextRows (statement : Compiled) : Course Recorder Value := do
  let recorder ← get
  let rows := recorder.rows.headD (.list [])
  set { recorder with rows := recorder.rows.tail }
  settled (statement.verify rows)
  pure rows

def executor : Executor Recorder := fun statements writes => do
  modify fun recorder => { recorder with calls := recorder.calls ++ [(writes, statements)] }
  match (← get).fault with
  | some message => throw (.server (.failure message))
  | none => statements.mapM nextRows

end Recorder

end GraphGateway.Service
