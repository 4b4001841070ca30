import GraphGateway.Console.Literal
import GraphGateway.Console.Style
import GraphGateway.Text.Picture

/-!
Markup of console texts.  A tag stands in brackets and starts with a small letter or one of `#`, `/`
and `@`; it gives a style to what follows it, or a call behind `@`, up to the tag that closes it.  A
backslash before a tag makes it plain text, and two of them stand for one.  On a console without
colours only the text is left.
-/
namespace GraphGateway.Console

def startsTag (c : Char) : Bool :=
  ('a' ≤ c && c ≤ 'z') || c = '#' || c = '/' || c = '@'

/-- The inside of the tag at the head of a text, and what follows the tag. -/
def tagAt? : List Char → Option (List Char × List Char)
  | '[' :: c :: rest =>
      if startsTag c then
        let inner := rest.takeWhile fun d => d != '[' && d != ']'
        match rest.dropWhile fun d => d != '[' && d != ']' with
        | ']' :: after => some (c :: inner, after)
        | _ => none
      else none
  | _ => none

/-- The backslashes at the head of a text, and what follows them. -/
def splitSlashes (text : List Char) : List Char × List Char :=
  (text.takeWhile (· = '\\'), text.dropWhile (· = '\\'))

def bracketed (tag : List Char) : List Char := '[' :: (tag ++ [']'])

inductive Piece where
  | plain (text : List Char)
  | tag (inside : List Char)
  deriving DecidableEq, Repr

/-- A piece of text, unless it is empty. -/
def Piece.ofText (text : List Char) : List Piece :=
  if text.isEmpty then [] else [.plain text]

/-- The pieces of a marked text; `before` is the text before it, last character first.  Each step
takes a character or a tag, so that fuel of the length of the text is enough. -/
def piecesFrom : Nat → List Char → List Char → List Piece
  | 0, before, text => Piece.ofText (before.reverse ++ text)
  | fuel + 1, before, text =>
      let (slashes, rest) := splitSlashes text
      match tagAt? rest with
      | some (tag, after) =>
          let shown := Piece.ofText (List.replicate (slashes.length / 2) '\\')
          let piece := if slashes.length % 2 = 1 then Piece.plain (bracketed tag) else .tag tag
          Piece.ofText before.reverse ++ shown ++ piece :: piecesFrom fuel [] after
      | none =>
          match rest with
          | [] => Piece.ofText (before.reverse ++ slashes)
          | c :: after => piecesFrom fuel (c :: (slashes ++ before)) after

def pieces (text : List Char) : List Piece := piecesFrom (text.length + 1) [] text

/-- Characters that no console shows. -/
def isSilent (c : Char) : Bool :=
  [0x07, 0x08, 0x0B, 0x0C, 0x0D].contains c.toNat

/-- A bracket behind a backslash stands for the bracket. -/
def unslashed : List Char → List Char
  | '\\' :: '[' :: rest => '[' :: unslashed rest
  | c :: rest => c :: unslashed rest
  | [] => []

/-- A tag that is open: the one name of its style, and its parameters behind `=`. -/
structure OpenTag where
  name : String
  parameters : Option String
  deriving DecidableEq, Repr

/-- Why markup cannot be shown. -/
inductive MarkupFault where
  /-- A tag closes what is not open, or what it calls cannot be read. -/
  | unsound
  | style (fault : StyleFault)
  deriving DecidableEq, Repr

/-- Text without its markup, and the styles that its tags ask for. -/
structure Marked where
  text : List Char := []
  styles : List String := []
  deriving Repr

/-- Reads the name of a style. -/
def styleName (name : String) : Except MarkupFault String :=
  (Style.nameOf name).mapError .style

namespace OpenTag

/-- A tag from its inside. -/
def ofInside (inside : List Char) : Except MarkupFault OpenTag := do
  let name ← styleName (String.ofList (inside.takeWhile (· != '=')))
  let parameters := inside.dropWhile (· != '=')
  pure
    { name
      parameters :=
        if parameters.isEmpty then none else some (String.ofList (parameters.drop 1)) }

/-- The style that a tag asks for. -/
def style (tag : OpenTag) : String :=
  match tag.parameters with
  | some parameters => tag.name ++ " " ++ parameters
  | none => tag.name

/-- Whether a tag calls something, rather than asks for a style. -/
def isCall (tag : OpenTag) : Bool := tag.name.toList.head? = some '@'

/-- Closes a tag: the style that it asks for, or nothing if it calls what can be read. -/
def close (tag : OpenTag) : Except MarkupFault (List String) :=
  if !tag.isCall then .ok [tag.style]
  else
    let parameters := (tag.parameters.getD "").toList
    if parameters.isEmpty || isCallable (Text.trimBlanks parameters) then .ok []
    else .error .unsound

/-- The last open tag of a name, or of any, and the tags without it; the last one stands first. -/
def take? (name : Option String) : List OpenTag → Option (OpenTag × List OpenTag)
  | [] => none
  | tag :: tags =>
      if name.all (· = tag.name) then some (tag, tags)
      else (take? name tags).map fun (found, tags) => (found, tag :: tags)

end OpenTag

/-- What is shown of plain text: pictures for their names, and no silent characters. -/
def shownPlain (text : List Char) : List Char :=
  (Text.withPictures text).filter (!isSilent ·)

/-- Shows some pieces, with tags open before them. -/
def Marked.ofPieces : List OpenTag → List Piece → Except MarkupFault Marked
  | tags, [] => .ok { styles := tags.map OpenTag.style }
  | tags, .plain text :: rest => do
      let marked ← ofPieces tags rest
      pure { marked with text := shownPlain (unslashed text) ++ marked.text }
  | tags, .tag ('/' :: inside) :: rest => do
      let name := Text.trimBlanks (inside.takeWhile (· != '='))
      let name ← if name.isEmpty then pure none else some <$> styleName (String.ofList name)
      match OpenTag.take? name tags with
      | none => .error .unsound
      | some (tag, tags) =>
          let styles ← tag.close
          let marked ← ofPieces tags rest
          pure { marked with styles := styles ++ marked.styles }
  | tags, .tag inside :: rest => do
      let tag ← OpenTag.ofInside inside
      ofPieces (tag :: tags) rest

/-- Shows a marked text as on a console without colours. -/
def Marked.ofText (text : String) : Except MarkupFault Marked :=
  let chars := text.toList
  if chars.contains '[' then ofPieces [] (pieces chars)
  else .ok { text := shownPlain chars }

/-- The text, if its styles can be drawn; what is no style at all has no effect. -/
def Marked.drawn (marked : Marked) : Except MarkupFault (List Char) := do
  for style in marked.styles do
    match Style.ofText style with
    | .ok _ => pure ()
    | .error .unreadable => pure ()
    | .error fault => .error (.style fault)
  pure marked.text

/-- A text with a backslash before each tag, and those before that doubled. -/
def escapeTags : Nat → List Char → List Char
  | 0, text => text
  | fuel + 1, text =>
      let (slashes, rest) := splitSlashes text
      match tagAt? rest with
      | some (tag, after) => slashes ++ slashes ++ '\\' :: bracketed tag ++ escapeTags fuel after
      | none =>
          match rest with
          | [] => slashes
          | c :: after => slashes ++ c :: escapeTags fuel after

/-- A text that is shown as it is; a single backslash at its end is doubled. -/
def escapeMarkup (text : String) : String :=
  let escaped := escapeTags (text.toList.length + 1) text.toList
  let slashes := escaped.reverse.takeWhile (· = '\\')
  String.ofList (if slashes.length = 1 then escaped ++ ['\\'] else escaped)

end GraphGateway.Console
