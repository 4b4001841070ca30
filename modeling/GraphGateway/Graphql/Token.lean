import GraphGateway.Json.Reader

/-!
Tokens of GraphQL text.  Blanks, commas, comments and byte order marks separate tokens and are
skipped.  Names are ASCII.  A number may not run into a name or a point.  Strings stand in one quote
on one line, or in three quotes over several lines, whose common indentation is taken away.
-/
namespace GraphGateway.Graphql

open Json (hexDigit? hexUnit?)
open Text (isHighSurrogate isLowSurrogate surrogatePair)

inductive Token where
  | bang
  | dollar
  | ampersand
  | parenOpen
  | parenClose
  | spread
  | colon
  | equals
  | atSign
  | bracketOpen
  | bracketClose
  | braceOpen
  | bar
  | braceClose
  | name (text : String)
  | int (text : String)
  | float (text : String)
  | string (content : String) (block : Bool)
  deriving DecidableEq, Repr

/-- Why a text is no GraphQL text: its characters make no tokens, or its tokens make nothing that
was asked for. -/
inductive SyntaxFault where
  | illegible
  | malformed
  deriving DecidableEq, Repr

namespace Token

def isNameStart (c : Char) : Bool := c.isAlpha || c = '_'

def isNamePart (c : Char) : Bool := c.isAlphanum || c = '_'

def isSkipped (c : Char) : Bool :=
  c = ' ' || c = '\t' || c = ',' || c = '\n' || c = '\r' || c = '\uFEFF'

def isLineEnd (c : Char) : Bool := c = '\n' || c = '\r'

/-- The token that one character makes. -/
def ofMark? : Char → Option Token
  | '!' => some .bang
  | '$' => some .dollar
  | '&' => some .ampersand
  | '(' => some .parenOpen
  | ')' => some .parenClose
  | ':' => some .colon
  | '=' => some .equals
  | '@' => some .atSign
  | '[' => some .bracketOpen
  | ']' => some .bracketClose
  | '\x7b' => some .braceOpen
  | '|' => some .bar
  | '\x7d' => some .braceClose
  | _ => none

/-- One digit at least. -/
def readDigits (text : List Char) : Except SyntaxFault (List Char × List Char) :=
  let digits := text.takeWhile Char.isDigit
  if digits.isEmpty then .error .illegible
  else .ok (digits, text.dropWhile Char.isDigit)

/-- The whole part: a zero that no digit follows, or digits. -/
def readWhole : List Char → Except SyntaxFault (List Char × List Char)
  | '0' :: rest =>
      match rest with
      | c :: _ => if c.isDigit then .error .illegible else .ok (['0'], rest)
      | [] => .ok (['0'], [])
  | text => readDigits text

def readFraction : List Char → Except SyntaxFault (List Char × List Char)
  | '.' :: rest => (readDigits rest).map fun (digits, after) => ('.' :: digits, after)
  | text => .ok ([], text)

def readExponent : List Char → Except SyntaxFault (List Char × List Char)
  | [] => .ok ([], [])
  | mark :: rest =>
      if mark = 'e' || mark = 'E' then
        match rest with
        | sign :: after =>
            if sign = '+' || sign = '-' then
              (readDigits after).map fun (digits, after) => (mark :: sign :: digits, after)
            else (readDigits rest).map fun (digits, after) => (mark :: digits, after)
        | [] => .error .illegible
      else .ok ([], mark :: rest)

def readNumber (text : List Char) : Except SyntaxFault (Token × List Char) := do
  let (sign, unsigned) : List Char × List Char :=
    match text with
    | '-' :: rest => (['-'], rest)
    | _ => ([], text)
  let (whole, rest) ← readWhole unsigned
  let (fraction, rest) ← readFraction rest
  let (exponent, rest) ← readExponent rest
  match rest with
  | c :: _ => if c = '.' || isNameStart c then throw .illegible
  | [] => pure ()
  let spelling := String.ofList (sign ++ whole ++ fraction ++ exponent)
  if fraction.isEmpty && exponent.isEmpty then pure (.int spelling, rest)
  else pure (.float spelling, rest)

/-- The number of up to eight hexadecimal digits before a closing brace. -/
def readBracedCode : Nat → Nat → List Char → Option (Nat × List Char)
  | 0, _, _ => none
  | fuel + 1, code, c :: rest =>
      if c = '\x7d' then some (code, rest)
      else match hexDigit? c with
        | some digit => readBracedCode fuel (code * 16 + digit) rest
        | none => none
  | _, _, [] => none

def isScalarCode (code : Nat) : Bool :=
  code < 0xD800 || (0xE000 ≤ code && code < 0x110000)

/-- The character of an escape by number, after its letter: four digits, two times four for a pair
of surrogates, or digits in braces. -/
def readCodeEscape (text : List Char) : Except SyntaxFault (Char × List Char) :=
  match text with
  | '\x7b' :: '\x7d' :: _ => .error .illegible
  | '\x7b' :: rest =>
      match readBracedCode 9 0 rest with
      | some (code, after) =>
          if isScalarCode code then .ok (Char.ofNat code, after) else .error .illegible
      | none => .error .illegible
  | a :: b :: c :: d :: rest =>
      match hexUnit? a b c d with
      | none => .error .illegible
      | some unit =>
          if isScalarCode unit then .ok (Char.ofNat unit, rest)
          else
            match isHighSurrogate unit, rest with
            | true, '\\' :: 'u' :: e :: f :: g :: h :: after =>
                match hexUnit? e f g h with
                | some low =>
                    if isLowSurrogate low then .ok (surrogatePair unit low, after)
                    else .error .illegible
                | none => .error .illegible
            | _, _ => .error .illegible
  | _ => .error .illegible

def simpleEscape? : Char → Option Char
  | '"' => some '"'
  | '\\' => some '\\'
  | '/' => some '/'
  | 'b' => some '\x08'
  | 'f' => some '\x0c'
  | 'n' => some '\n'
  | 'r' => some '\r'
  | 't' => some '\t'
  | _ => none

/-- The content of a string on one line, after its opening quote. -/
def readString : Nat → List Char → Except SyntaxFault (List Char × List Char)
  | 0, _ => .error .illegible
  | _, [] => .error .illegible
  | fuel + 1, c :: rest =>
      if c = '"' then .ok ([], rest)
      else if isLineEnd c then .error .illegible
      else if c = '\\' then
        match rest with
        | [] => .error .illegible
        | 'u' :: after => do
            let (escaped, after) ← readCodeEscape after
            let (content, after) ← readString fuel after
            pure (escaped :: content, after)
        | letter :: after =>
            match simpleEscape? letter with
            | none => .error .illegible
            | some escaped => do
                let (content, after) ← readString fuel after
                pure (escaped :: content, after)
      else do
        let (content, after) ← readString fuel rest
        pure (c :: content, after)

/-- Puts a character at the head of the first line. -/
def pushFirst (c : Char) : List (List Char) → List (List Char)
  | [] => [[c]]
  | line :: lines => (c :: line) :: lines

/-- The lines of a string in three quotes, after its opening quotes. -/
def readBlock : List Char → Option (List (List Char) × List Char)
  | [] => none
  | '"' :: '"' :: '"' :: rest => some ([[]], rest)
  | '\\' :: '"' :: '"' :: '"' :: rest =>
      (readBlock rest).map fun (lines, after) =>
        (pushFirst '"' (pushFirst '"' (pushFirst '"' lines)), after)
  | '\r' :: '\n' :: rest => (readBlock rest).map fun (lines, after) => ([] :: lines, after)
  | c :: rest =>
      (readBlock rest).map fun (lines, after) =>
        if isLineEnd c then ([] :: lines, after) else (pushFirst c lines, after)

def isIndent (c : Char) : Bool := c = ' ' || c = '\t'

def isBlankLine (line : List Char) : Bool := line.all isIndent

def indentOf (line : List Char) : Nat := (line.takeWhile isIndent).length

/-- The least indentation of the lines that are not blank, the first line aside. -/
def commonIndent (lines : List (List Char)) : Nat :=
  match ((lines.drop 1).filter (!isBlankLine ·)).map indentOf with
  | [] => lines.foldl (fun most line => max most line.length) 0
  | indent :: rest => rest.foldl min indent

def dropBlankEnds (lines : List (List Char)) : List (List Char) :=
  ((lines.dropWhile isBlankLine).reverse.dropWhile isBlankLine).reverse

/-- The lines without their common indentation and without blank lines at the two ends. -/
def dedent (lines : List (List Char)) : List (List Char) :=
  let indent := commonIndent lines
  match lines with
  | [] => []
  | first :: rest => dropBlankEnds (first :: rest.map (List.drop indent))

/-- The token at the head of a text that starts with no separator. -/
def readOne (c : Char) (rest : List Char) : Except SyntaxFault (Token × List Char) :=
  match ofMark? c with
  | some token => .ok (token, rest)
  | none =>
      if isNameStart c then
        .ok (.name (String.ofList (c :: rest.takeWhile isNamePart)), rest.dropWhile isNamePart)
      else if c.isDigit || c = '-' then readNumber (c :: rest)
      else
        match c, rest with
        | '.', '.' :: '.' :: after => .ok (.spread, after)
        | '"', '"' :: '"' :: after =>
            match readBlock after with
            | some (lines, after) =>
                .ok (.string (String.ofList (['\n'].intercalate (dedent lines))) true, after)
            | none => .error .illegible
        | '"', _ => do
            let (content, after) ← readString (rest.length + 1) rest
            pure (.string (String.ofList content) false, after)
        | _, _ => .error .illegible

/-- The tokens of a text; the fuel bounds the steps, each of which takes a character. -/
def readAll : Nat → List Char → Except SyntaxFault (List Token)
  | _, [] => .ok []
  | 0, _ => .error .illegible
  | fuel + 1, c :: rest =>
      if isSkipped c then readAll fuel rest
      else if c = '#' then readAll fuel (rest.dropWhile (!isLineEnd ·))
      else do
        let (token, after) ← readOne c rest
        let tokens ← readAll fuel after
        pure (token :: tokens)

/-- The tokens of a GraphQL text.  No surrogate stands on its own in it, be it in a comment; nor then
do the private characters that carry surrogates, though GraphQL allows them. -/
def ofText (text : String) : Except SyntaxFault (List Token) :=
  let chars := text.toList
  if chars.any fun c => (Text.carried? c).isSome then .error .illegible
  else readAll (chars.length + 1) chars

end Token

end GraphGateway.Graphql
