import GraphGateway.Text.Character
import GraphGateway.Text.LetterCase
import GraphGateway.Text.PictureName

/-!
Pictures by name.  A name between two colons stands for its picture; behind the name `-text` asks
for its look in text and `-emoji` for its look as a picture.
-/
namespace GraphGateway.Text

/-- Words in pairs; a last word without a partner is left out. -/
def pairedWords : List String → List (String × String)
  | first :: second :: rest => (first, second) :: pairedWords rest
  | _ => []

/-- Each name and its picture. -/
def pictures : List (String × String) :=
  pictureRows.flatMap fun row => pairedWords (row.splitOn " ")

/-- The picture of a name in letters of any case. -/
def pictureNamed? (name : List Char) : Option (List Char) :=
  let name := lower (String.ofList name)
  (pictures.find? (·.1 == name)).map fun entry => entry.2.toList

/-- The looks that a name may ask for, and the mark behind the picture for each. -/
def looks : List (List Char × Char) :=
  [("-emoji".toList, Char.ofNat 0xFE0F), ("-text".toList, Char.ofNat 0xFE0E)]

/-- The picture for what stands between two colons. -/
def pictureFor? (name : List Char) : Option (List Char) :=
  match looks.find? fun look => look.1.isSuffixOf name with
  | some (look, mark) =>
      (pictureNamed? (name.take (name.length - look.length))).map (· ++ [mark])
  | none => pictureNamed? name

/-- A text with pictures for their names.  `name` is what stands since an open colon, last character
first. -/
def withPicturesFrom : Option (List Char) → List Char → List Char
  | none, [] => []
  | some name, [] => ':' :: name.reverse
  | none, c :: rest =>
      if c = ':' then withPicturesFrom (some []) rest else c :: withPicturesFrom none rest
  | some name, c :: rest =>
      if c = ':' then
        let name := name.reverse
        (pictureFor? name).getD (':' :: (name ++ [':'])) ++ withPicturesFrom none rest
      else if isBlank c then ':' :: (name.reverse ++ c :: withPicturesFrom none rest)
      else withPicturesFrom (some (c :: name)) rest

def withPictures (text : List Char) : List Char := withPicturesFrom none text

end GraphGateway.Text
