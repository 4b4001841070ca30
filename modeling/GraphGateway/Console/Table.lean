import GraphGateway.Console.Layout
import GraphGateway.Console.Markup

/-!
Tables in a frame: a title over them, a heavy head, and columns as wide as their widest cell with a
blank at each side.  Cells are marked text and may have several lines.  Where a table would be wider
than the console, its widest columns give way.
-/
namespace GraphGateway.Console

structure Table where
  title : String
  head : List String
  rows : List (List String)

/-- The widths of the columns that some rows of cells need. -/
def columnWidths (limit : Nat) (rows : List (List (List Char))) : List Nat :=
  (rows.foldl (fun widths row => widths.zipWith max (row.map widestLine))
    ((rows.headD []).map fun _ => 0)).map fun width => min limit (width + 2)

/-- The half or other share of a number that is nearest to it, of two the even one. -/
def evenShare (number shares : Nat) : Nat :=
  let quotient := number / shares
  let double := 2 * (number % shares)
  if double < shares || (double = shares && quotient % 2 = 0) then quotient else quotient + 1

/-- Takes `excess` cells in even shares from the columns of a width, at most `most` from each; there
are `shares` of them. -/
def takeShares (widest most : Nat) : Nat → Nat → List Nat → List Nat
  | _, _, [] => []
  | excess, shares, width :: rest =>
      if width = widest then
        let taken := min most (evenShare excess shares)
        (width - taken) :: takeShares widest most (excess - taken) (shares - 1) rest
      else width :: takeShares widest most excess shares rest

/-- The cells that some columns take. -/
def totalWidth (widths : List Nat) : Nat := widths.foldl (· + ·) 0

/-- Widths that make up at most `limit` cells: the widest columns give way down to the next ones,
and so on.  Each step takes at least a cell, so that fuel of the cells in excess is enough. -/
def collapsed (limit : Nat) : Nat → List Nat → List Nat
  | 0, widths => widths
  | fuel + 1, widths =>
      let excess := totalWidth widths - limit
      if excess = 0 then widths
      else
        let widest := widths.foldl max 0
        let next := (widths.filter (· != widest)).foldl max 0
        let shares := (widths.filter (· = widest)).length
        collapsed limit fuel (takeShares widest (min excess (widest - next)) excess shares widths)

/-- The marks of a frame: left, filling, between and right. -/
structure Rule where
  left : String
  fill : Char
  between : String
  right : String

def Rule.line (rule : Rule) (widths : List Nat) : String :=
  rule.left ++ rule.between.intercalate
    (widths.map fun width => String.ofList (List.replicate width rule.fill)) ++ rule.right

/-- The lines of a cell with a blank at each side. -/
def paddedLines (width : Nat) (text : List Char) : List (List Char) :=
  let inner := width - 2
  (wrapped inner .ellipsis text).map fun line => ' ' :: (onLeft inner .ellipsis line ++ [' '])

/-- The lines of a row of cells between bars; a cell that has fewer lines than others ends with
blanks. -/
def rowLines (bar : String) (widths : List Nat) (row : List (List Char)) : List String :=
  let cells := (widths.zip row).map fun (width, text) => (width, paddedLines width text)
  let height := (cells.map (·.2.length)).foldl max 1
  (List.range height).map fun index =>
    bar ++ bar.intercalate
      (cells.map fun (width, lines) => String.ofList (lines.getD index (blanks width))) ++ bar

namespace Table

/-- The lines of a table on a console of some cells, if the markup of its cells is sound. -/
def lines (width : Nat) (table : Table) : Except MarkupFault (List String) := do
  let marked ← (table.head :: table.rows).mapM fun row => row.mapM Marked.ofText
  let title ← Marked.ofText table.title >>= Marked.drawn
  let rows ← marked.mapM fun row => row.mapM Marked.drawn
  let limit := width - (table.head.length + 1)
  let widths := columnWidths limit rows
  let widths := collapsed limit (totalWidth widths - limit) widths
  let full := totalWidth widths + table.head.length + 1
  let titleLines := (wrapped full .fold title).map fun line =>
    String.ofList (inMiddle full .fold line)
  let top := Rule.line ⟨"┏", '━', "┳", "┓"⟩ widths
  let middle := Rule.line ⟨"┡", '━', "╇", "┩"⟩ widths
  let bottom := Rule.line ⟨"└", '─', "┴", "┘"⟩ widths
  pure (titleLines ++ [top] ++ rowLines "┃" widths (rows.headD []) ++ [middle] ++
    (rows.drop 1).flatMap (rowLines "│" widths) ++ [bottom])

end Table

end GraphGateway.Console
