import GraphGateway.Text.CellWidth
import GraphGateway.Text.Character

/-!
Texts in lines of a given width.  Lines break between words, and a word keeps the blanks behind it.
A word that is wider than a line is folded into several, or stands alone and is cut with a mark.
-/
namespace GraphGateway.Console

open Text (cellWidth)

def blanks (count : Nat) : List Char := List.replicate count ' '

/-- Places between two tabs. -/
def tabSize : Nat := 8

/-- The parts of a line between its tabs, with blanks for the tabs; `position` cells stand before
them.  A tab is one blank, and more up to the next place. -/
def joinTabbed : Nat → List (List Char) → List Char
  | _, [] => []
  | _, [part] => part
  | position, part :: parts =>
      let filled := part ++ [' ']
      let reached := position + cellWidth filled
      let gap := (tabSize - reached % tabSize) % tabSize
      filled ++ blanks gap ++ joinTabbed (reached + gap) parts

def expandTabs (line : List Char) : List Char := joinTabbed 0 (Text.partsAt '\t' line)

def trimEnd (line : List Char) : List Char :=
  (line.reverse.dropWhile Text.isBlank).reverse

def startsBlank (text : List Char) : Bool := text.head?.any Text.isBlank

/-- Stretches of a line: each ends before the first letter behind its blanks. -/
def stretches : List Char → List (List Char)
  | [] => []
  | c :: rest =>
      match stretches rest with
      | [] => [[c]]
      | stretch :: others =>
          if Text.isBlank c && !startsBlank stretch then [c] :: stretch :: others
          else (c :: stretch) :: others

/-- The words of a line with the blanks behind them; the first has those before it too. -/
def spacedWords (line : List Char) : List (List Char) :=
  match stretches line with
  | first :: second :: rest =>
      if startsBlank first then (first ++ second) :: rest else first :: second :: rest
  | [only] => if startsBlank only then [] else [only]
  | [] => []

/-- What is done with a word that is wider than a line. -/
inductive Overflow where
  | fold
  | ellipsis
  deriving DecidableEq, Repr

/-- Lines so far, the last one first, the line at hand, and the cells that it is taken to have. -/
structure Wrapping where
  lines : List (List Char) := []
  line : List Char := []
  cells : Nat := 0

namespace Wrapping

/-- Starts a new line with a text, unless none has been started. -/
def start (wrapping : Wrapping) (text : List Char) : Wrapping where
  lines := if wrapping.line.isEmpty then wrapping.lines else wrapping.line :: wrapping.lines
  line := text
  cells := cellWidth text

/-- Adds a word to the line at hand if it fits without the blanks behind it, else to a new one. -/
def add (width : Nat) (overflow : Overflow) (wrapping : Wrapping) (word : List Char) : Wrapping :=
  let needed := cellWidth (trimEnd word)
  let longer := wrapping.line ++ word
  if wrapping.cells + needed ≤ width then
    { wrapping with line := longer, cells := wrapping.cells + cellWidth word }
  else if width < needed then
    match overflow with
    | .fold => (Text.foldedInto width word).foldl start wrapping
    | .ellipsis => wrapping.start word
  else if wrapping.cells = 0 || wrapping.line.isEmpty then { wrapping with line := longer }
  else wrapping.start word

end Wrapping

/-- The lines that a line breaks into. -/
def brokenLine (width : Nat) (overflow : Overflow) (line : List Char) : List (List Char) :=
  match spacedWords line with
  | [] => [line]
  | words =>
      let wrapping := words.foldl (Wrapping.add width overflow) {}
      (wrapping.line :: wrapping.lines).reverse

/-- A line without blanks at its end, as far as it has more than `size` characters. -/
def cropBlanks (size : Nat) (line : List Char) : List Char :=
  let trailing := line.length - (trimEnd line).length
  line.take (line.length - min trailing (line.length - size))

/-- A line of at most some cells; the mark of what was cut off takes one of them. -/
def truncated (width : Nat) (overflow : Overflow) (line : List Char) : List Char :=
  if cellWidth line ≤ width then line
  else
    match overflow with
    | .fold => Text.cropped width line
    | .ellipsis => Text.cropped (width - 1) line ++ ['…']

/-- The lines of a text in a given width. -/
def wrapped (width : Nat) (overflow : Overflow) (text : List Char) : List (List Char) :=
  (Text.partsAt '\n' text).flatMap fun line =>
    (brokenLine width overflow (expandTabs line)).map (cropBlanks width)

/-- A line on the left of some cells. -/
def onLeft (width : Nat) (overflow : Overflow) (line : List Char) : List Char :=
  let line := truncated width overflow line
  line ++ blanks (width - cellWidth line)

/-- A line in the middle of some cells; what is left over stands on its right. -/
def inMiddle (width : Nat) (overflow : Overflow) (line : List Char) : List Char :=
  let line := truncated width overflow (trimEnd line)
  let line := blanks ((width - cellWidth line) / 2) ++ line
  line ++ blanks (width - cellWidth line)

/-- Line ends of all kinds. -/
def isLineEnd (c : Char) : Bool :=
  [0x0A, 0x0B, 0x0C, 0x0D, 0x1C, 0x1D, 0x1E, 0x85, 0x2028, 0x2029].contains c.toNat

/-- A text with one kind of line end. -/
def withOneLineEnd (text : List Char) : List Char :=
  text.map fun c => if isLineEnd c then '\n' else c

/-- The cells of the widest line of a text. -/
def widestLine (text : List Char) : Nat :=
  ((Text.partsAt '\n' (withOneLineEnd text)).map cellWidth).foldl max 0

end GraphGateway.Console
