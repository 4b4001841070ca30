import GraphGateway.Statement.Answer

/-!
Entries without a match.  Every entry that connects or updates is expected to be reported; one
counts as matched if any row reports a match of it.
-/
namespace GraphGateway.Statement

open Request

/-- How often each path matched, in the order in which the paths came. -/
abbrev Counts := List (Value × Value)

namespace Counts

/-- The count of a path. -/
def get? (counts : Counts) (path : Value) : Option Value :=
  (counts.find? fun entry => entry.1.same path).map Prod.snd

/-- Puts the count of a path in the place of its count so far, or at the end. -/
def put : Counts → Value → Value → Counts
  | [], path, count => [(path, count)]
  | (other, old) :: rest, path, count =>
      if other.same path then (other, count) :: rest else (other, old) :: put rest path count

end Counts

/-- A path as a key of counts. -/
def pathKey (path : Value) : Except Failure Value :=
  if path.isKey then .ok path else .error .mismatched

/-- The larger of two numbers; of equal ones the first. -/
def larger (first second : Value) : Except Failure Value :=
  match first.less? second with
  | some true => .ok second
  | some false => .ok first
  | none => .error .mismatched

/-- Counts a report in. -/
def countReport (counts : Counts) (report : Value) : Except Failure Counts := do
  let path ← entryAt "path" report
  let path ← pathKey path
  let matched ← entryAt "matched" report
  let most ← larger ((counts.get? path).getD (.int 0)) matched
  pure (counts.put path most)

/-- Counts the reports of a row in. -/
def countRow (counts : Counts) (row : Value) : Except Failure Counts := do
  let reports ← entryOrNull "matches" row
  let reports ← itemsOf reports
  reports.foldlM countReport counts

/-- The paths that are expected or reported and have no match. -/
def unmatched (rows : Value) (expected : List Value) : Except Failure (List Value) := do
  let expected ← expected.mapM pathKey
  let rows ← elementsOf rows
  let counts ← rows.foldlM countRow
    (expected.foldl (fun counts path => Counts.put counts path (.int 0)) [])
  pure ((counts.filter fun entry => entry.2.isZero).map Prod.fst)

/-- The entries of a statement without a match. -/
def Compiled.unmatched (statement : Compiled) (rows : Value) : Except Failure (List Value) :=
  Statement.unmatched rows (statement.paths.map .text)

/-- Refuses rows in which an entry has no match, if matches are required. -/
def Compiled.verify (statement : Compiled) (rows : Value) : Except Failure Unit :=
  if !statement.requireMatch then .ok ()
  else do
    match ← statement.unmatched rows with
    | [] => pure ()
    | path :: _ => throw (.fault (.notFound path none))

end GraphGateway.Statement
