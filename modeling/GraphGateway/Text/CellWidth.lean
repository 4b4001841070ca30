import GraphGateway.Text.CellRanges
import GraphGateway.Text.Character

/-!
Texts on a terminal of fixed cells.  A character takes one cell, two or none; a joiner draws the
character after it into the one before it, and a picture mark widens the character before it to a
picture.  What no cut parts is a cluster.
-/
namespace GraphGateway.Text

/-- The cells that one character takes by itself. -/
def cellWidthOf (c : Char) : Nat :=
  if 0x20 ≤ c.toNat && c.toNat < 0x7F then 1
  else if c.toNat < 0x20 || c.toNat = 0x7F then 0
  else if c.inRanges wideRanges then 2
  else if c.inRanges zeroWidthRanges then 0
  else 1

/-- Draws the next character into the one before. -/
def joiner : Char := Char.ofNat 0x200D

/-- Asks for the picture of the character before. -/
def pictureMark : Char := Char.ofNat 0xFE0F

def isWidened (c : Char) : Bool := c.inRanges widenedRanges

/-- The cells of a text; `last` is the last character before it that takes a cell. -/
def cellsFrom : Option Char → List Char → Nat
  | _, [] => 0
  | last, c :: rest =>
      if c = joiner then
        match rest with
        | [] => 0
        | _ :: rest => cellsFrom last rest
      else if c = pictureMark then
        (if last.any isWidened then 1 else 0) + cellsFrom none rest
      else
        let width := cellWidthOf c
        width + cellsFrom (if width = 0 then last else some c) rest

/-- The cells that a text takes. -/
def cellWidth (text : List Char) : Nat := cellsFrom none text

/-- Characters that stand together, and the cells that they take. -/
structure Cluster where
  text : List Char
  width : Nat
  deriving DecidableEq, Repr

namespace Cluster

def grow (cluster : Cluster) (text : List Char) (width : Nat) : Cluster where
  text := cluster.text ++ text
  width := cluster.width + width

/-- The clusters of a text behind those found before it, the last of them first; `last` is the last
character before it that takes a cell.  What takes no cell belongs to the cluster before it. -/
def ofTextFrom : Option Char → List Cluster → List Char → List Cluster
  | _, found, [] => found.reverse
  | last, found, c :: rest =>
      let width := cellWidthOf c
      let shown := if width = 0 then last else some c
      match found with
      | [] => ofTextFrom shown [⟨[c], width⟩] rest
      | cluster :: earlier =>
          if c = joiner then
            match rest with
            | [] => (cluster.grow [c] 0 :: earlier).reverse
            | d :: rest => ofTextFrom last (cluster.grow [c, d] 0 :: earlier) rest
          else if c = pictureMark && last.any isWidened then
            ofTextFrom none (cluster.grow [c] 1 :: earlier) rest
          else if width = 0 then ofTextFrom last (cluster.grow [c] 0 :: earlier) rest
          else ofTextFrom shown (⟨[c], width⟩ :: found) rest

def ofText (text : List Char) : List Cluster := ofTextFrom none [] text

/-- The text of the clusters that fit into some cells; one that fits in part leaves a blank. -/
def fitting : Nat → List Cluster → List Char
  | _, [] => []
  | room, cluster :: rest =>
      if room = 0 then []
      else if cluster.width ≤ room then cluster.text ++ fitting (room - cluster.width) rest
      else [' ']

/-- The clusters in lines of at most some cells; `line` is the line so far, of `taken` cells. -/
def folded (width : Nat) : List Char → Nat → List Cluster → List (List Char)
  | line, taken, [] => if taken = 0 then [] else [line]
  | line, taken, cluster :: rest =>
      if width < taken + cluster.width then line :: folded width cluster.text cluster.width rest
      else folded width (line ++ cluster.text) (taken + cluster.width) rest

end Cluster

/-- The text without what goes beyond some cells. -/
def cropped (width : Nat) (text : List Char) : List Char :=
  if cellWidth text ≤ width then text else Cluster.fitting width (Cluster.ofText text)

/-- Lines of at most some cells that make up the text. -/
def foldedInto (width : Nat) (text : List Char) : List (List Char) :=
  Cluster.folded width [] 0 (Cluster.ofText text)

end GraphGateway.Text
