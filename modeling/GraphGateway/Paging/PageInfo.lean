import GraphGateway.Settings.Flaw
import GraphGateway.Value.Order

/-!
What a client is told about the page it got.  The facts may also come as dynamic values, of which
some are then no facts.
-/
namespace GraphGateway.Paging

open Settings (Issue issueOf readFlag readOptional readText)

structure PageInfo where
  hasNextPage : Bool := false
  hasPreviousPage : Bool := false
  startCursor : Option String := none
  endCursor : Option String := none
  deriving DecidableEq, Repr

/-- The page with these cursors.  `fetched` rows came, one more than asked for if there is a next
page, and `before` says whether an edge lies before the page. -/
def PageInfo.ofPage (cursors : List String) (fetched : Int) (first : Option Int) (before : Bool) :
    PageInfo where
  hasNextPage := match first with
    | some size => size < fetched
    | none => false
  hasPreviousPage := before
  startCursor := cursors.head?
  endCursor := cursors.getLast?

/-- Why values are no facts about a page. -/
inductive PageFault where
  /-- A value of a kind that does not do. -/
  | mismatched
  /-- An object where a list should be. -/
  | missingFirst
  | issues (issues : List Issue)

/-- The first and the last of some cursors, null where there are none. -/
def boundCursors : Value → Except PageFault (Value × Value)
  | .list items => .ok (items.head?.getD .null, items.getLast?.getD .null)
  | .text content =>
      let bound : Option Char → Value
        | some c => .text (String.singleton c)
        | none => .null
      .ok (bound content.toList.head?, bound content.toList.getLast?)
  | .object entries => if entries.isEmpty then .ok (.null, .null) else .error .missingFirst
  | value => if value.isTruthy then .error .mismatched else .ok (.null, .null)

/-- The page with these cursors, as `PageInfo.ofPage` has it. -/
def PageInfo.ofValues (cursors fetched first before : Value) : Except PageFault PageInfo := do
  let hasNextPage ←
    if first.isNull then pure false
    else
      match first.less? fetched with
      | some isLess => pure isLess
      | none => throw .mismatched
  let (start, last) ← boundCursors cursors
  let readCursor := readOptional readText
  match readFlag before, readCursor start, readCursor last with
  | .ok hasPreviousPage, .ok startCursor, .ok endCursor =>
      pure { hasNextPage, hasPreviousPage, startCursor, endCursor }
  | flag, first, second =>
      throw (.issues (issueOf "hasPreviousPage" flag ++ issueOf "startCursor" first ++
        issueOf "endCursor" second))

end GraphGateway.Paging
