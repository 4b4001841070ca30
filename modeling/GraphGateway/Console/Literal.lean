import GraphGateway.Decimal.Parsed
import GraphGateway.Text.Alphanumeric

/-!
Literals that a tag may hand to what it calls: numbers, texts, the words for truth and for nothing,
and rows, sets and tables of literals.  A set holds, and a table has for keys, only what cannot
change.  Here they are only told from what is no literal.
-/
namespace GraphGateway.Console

/-- What a literal is, as far as it matters where it may stand. -/
inductive LiteralKind where
  | real
  | imaginary
  | signedReal
  | signedImaginary
  /-- Any other literal that cannot change. -/
  | settled
  /-- A set, a table, or a row that holds one. -/
  | changeable
  deriving DecidableEq, Repr

namespace Literal

/-- Whether a character may stand in a word. -/
def isWordChar (c : Char) : Bool :=
  c.isAlphanum || c = '_' || 0x80 ≤ c.toNat

/-- Line ends of one kind only. -/
def withPlainLineEnds : List Char → List Char
  | '\r' :: '\n' :: rest => '\n' :: withPlainLineEnds rest
  | '\r' :: rest => '\n' :: withPlainLineEnds rest
  | c :: rest => c :: withPlainLineEnds rest
  | [] => []

/-- What follows the blanks and the comment at the head of a text; line ends are blanks inside of
brackets and, anywhere, behind a backslash. -/
def skipGap (bracketed comment : Bool) : List Char → List Char
  | '\\' :: '\n' :: rest =>
      if comment then (if bracketed then skipGap true false rest else '\n' :: rest)
      else skipGap bracketed false rest
  | '\n' :: rest => if bracketed then skipGap true false rest else '\n' :: rest
  | c :: rest =>
      if comment || c = ' ' || c = '\t' || c.toNat = 0x0C then skipGap bracketed comment rest
      else if c = '#' then skipGap bracketed true rest
      else c :: rest
  | [] => []

/-- Whether digits, or what counts as such, stand alone or in groups with one underscore between
them. -/
def isGrouped (isDigit : Char → Bool) : List Char → Bool
  | [] => false
  | [c] => isDigit c
  | c :: '_' :: rest => isDigit c && isGrouped isDigit rest
  | c :: rest => isDigit c && isGrouped isDigit rest

def isHexDigit (c : Char) : Bool :=
  c.isDigit || ('a' ≤ c.toLower && c.toLower ≤ 'f')

def isGroupedDecimal (digits : List Char) : Bool := isGrouped Char.isDigit digits

/-- Marks of numbers that are written in another base, and the digits of each. -/
def bases : List (Char × (Char → Bool)) :=
  [('x', isHexDigit), ('o', fun c => '0' ≤ c && c ≤ '7'), ('b', fun c => c = '0' || c = '1')]

def isDigitOrGroup (c : Char) : Bool := c.isDigit || c = '_'

/-- What follows the exponent at the head of a text, and whether there is one. -/
def skipExponent? : List Char → Option (Bool × List Char)
  | mark :: rest =>
      if mark = 'e' || mark = 'E' then
        let unsigned := match rest with
          | '+' :: rest => rest
          | '-' :: rest => rest
          | rest => rest
        if isGroupedDecimal (unsigned.takeWhile isDigitOrGroup) then
          some (true, unsigned.dropWhile isDigitOrGroup)
        else none
      else some (false, mark :: rest)
  | [] => some (false, [])

/-- Whether digits spell a whole number: no zero stands before others, and they are not too many. -/
def isWhole (digits : List Char) : Bool :=
  let digits := digits.filter (· != '_')
  digits.all (· = '0') ||
    (digits.head? != some '0' && digits.length ≤ Decimal.wholeDigitLimit)

/-- The kind of the decimal number at the head of a text, and what follows it. -/
def readDecimal? (text : List Char) : Option (LiteralKind × List Char) := do
  let whole := text.takeWhile isDigitOrGroup
  let rest := text.dropWhile isDigitOrGroup
  if !whole.isEmpty && !isGroupedDecimal whole then none
  let (pointed, fraction, rest) := match rest with
    | '.' :: after => (true, after.takeWhile isDigitOrGroup, after.dropWhile isDigitOrGroup)
    | _ => (false, [], rest)
  if !fraction.isEmpty && !isGroupedDecimal fraction then none
  if whole.isEmpty && fraction.isEmpty then none
  let (raised, rest) ← skipExponent? rest
  let (kind, rest) := match rest with
    | 'j' :: after => (LiteralKind.imaginary, after)
    | 'J' :: after => (.imaginary, after)
    | _ => (.real, rest)
  if kind = .real && !pointed && !raised && !isWhole whole then none
  if rest.head?.any isWordChar then none
  pure (kind, rest)

/-- The kind of the number at the head of a text, and what follows it. -/
def readNumber? (text : List Char) : Option (LiteralKind × List Char) :=
  match text with
  | '0' :: mark :: rest =>
      match bases.find? (·.1 = mark.toLower) with
      | none => readDecimal? text
      | some (_, isDigit) =>
          let word := rest.takeWhile isWordChar
          let digits := if word.head? = some '_' then word.drop 1 else word
          if isGrouped isDigit digits then some (.real, rest.dropWhile isWordChar) else none
  | _ => readDecimal? text

/-- How a quoted text is read: `raw` keeps its backslashes, `narrow` holds single bytes. -/
structure Quoting where
  mark : List Char
  raw : Bool := false
  narrow : Bool := false

def quotings : List Quoting :=
  [{ mark := ['b', 'r'], raw := true, narrow := true },
   { mark := ['r', 'b'], raw := true, narrow := true },
   { mark := ['b'], narrow := true }, { mark := ['r'], raw := true }, { mark := ['u'] },
   { mark := [] }]

def isQuote (c : Char) : Bool := c = '"' || c = '\''

/-- How the quoted text at the head of a text is read, and what follows its mark. -/
def quotingAt? (text : List Char) : Option (Quoting × List Char) :=
  (quotings.find? fun quoting =>
    (text.take quoting.mark.length).map Char.toLower = quoting.mark &&
      (text.drop quoting.mark.length).head?.any isQuote).map
    fun quoting => (quoting, text.drop quoting.mark.length)

/-- The digits that a letter behind a backslash asks for. -/
def spelledDigits (narrow : Bool) (letter : Char) : Nat :=
  if letter = 'x' then 2
  else if narrow then 0
  else if letter = 'u' then 4
  else if letter = 'U' then 8
  else 0

/-- What follows the quote that ends a text; of a character spelled by number, `pending` has how
many digits are to come and the number so far. -/
def skipQuoted? (quoting : Quoting) (quote : Char) (triple : Bool) :
    Option (Nat × Nat) → List Char → Option (List Char)
  | _, [] => none
  | some (awaited, number), c :: rest =>
      if !isHexDigit c then none
      else
        let digit := if c.isDigit then c.toNat - 0x30 else c.toLower.toNat - 0x57
        let number := number * 16 + digit
        if 0x10FFFF < number then none
        else
          skipQuoted? quoting quote triple
            (if awaited ≤ 1 then none else some (awaited - 1, number)) rest
  | none, '\\' :: c :: rest =>
      if quoting.narrow && 0x80 ≤ c.toNat then none
      else if quoting.raw then skipQuoted? quoting quote triple none rest
      else if c = 'N' && !quoting.narrow then none
      else
        let digits := spelledDigits quoting.narrow c
        skipQuoted? quoting quote triple (if digits = 0 then none else some (digits, 0)) rest
  | none, c :: rest =>
      if c = quote then
        if !triple then some rest
        else if [quote, quote].isPrefixOf rest then some (rest.drop 2)
        else skipQuoted? quoting quote triple none rest
      else if (c = '\n' && !triple) || (quoting.narrow && 0x80 ≤ c.toNat) then none
      else skipQuoted? quoting quote triple none rest

/-- What follows the quoted text at the head of a text, and whether it holds single bytes. -/
def skipOneQuoted? (text : List Char) : Option (Bool × List Char) := do
  let (quoting, text) ← quotingAt? text
  let quote ← text.head?
  let triple := [quote, quote, quote].isPrefixOf text
  let rest ← skipQuoted? quoting quote triple none (text.drop (if triple then 3 else 1))
  pure (quoting.narrow, rest)

/-- What follows the quoted texts at the head of a text, which make up one; all of them hold single
bytes or none does.  Each takes two quotes, so that fuel of the length of the text is enough. -/
def skipAllQuoted? (bracketed : Bool) : Nat → Bool → List Char → Option (List Char)
  | 0, _, text => some text
  | fuel + 1, narrow, text =>
      let after := skipGap bracketed false text
      match quotingAt? after with
      | none => some after
      | some _ => do
          let (alsoNarrow, rest) ← skipOneQuoted? after
          if alsoNarrow = narrow then skipAllQuoted? bracketed fuel narrow rest else none

/-- The kind of the word, number or text at the head of a text, and what follows it. -/
def readPlain? (bracketed : Bool) (text : List Char) : Option (LiteralKind × List Char) :=
  if (quotingAt? text).isSome then do
    let (narrow, rest) ← skipOneQuoted? text
    let rest ← skipAllQuoted? bracketed rest.length narrow rest
    pure (.settled, rest)
  else if "...".toList.isPrefixOf text then some (.settled, text.drop 3)
  else
    let word := text.takeWhile isWordChar
    let rest := text.dropWhile isWordChar
    match String.ofList word with
    | "True" => some (.settled, rest)
    | "False" => some (.settled, rest)
    | "None" => some (.settled, rest)
    | "set" =>
        match skipGap bracketed false rest with
        | '(' :: inner =>
            match skipGap true false inner with
            | ')' :: rest => some (.changeable, rest)
            | _ => none
        | _ => none
    | _ => readNumber? text

/-- Brackets within brackets that are read. -/
def mostBrackets : Nat := 200

/-- What follows the end of a row: its closing bracket, or the end of all. -/
def ending? (closing : Option Char) (text : List Char) : Option (List Char) :=
  match closing, text with
  | some closing, c :: rest => if c = closing then some rest else none
  | some _, [] => none
  | none, text => if (skipGap true false text).isEmpty then some [] else none

mutual

/-- The kind of the literal at the head of a text, without a sign, and what follows it. -/
def readAtom? (fuel brackets : Nat) (text : List Char) : Option (LiteralKind × List Char) :=
  match fuel, text with
  | 0, _ => none
  | fuel + 1, '(' :: inner =>
      if mostBrackets ≤ brackets then none
      else do
        let (items, comma, rest) ← readRow? fuel (brackets + 1) (some ')') inner
        if items.any (·.2) then none
        match items, comma with
        | [(kind, _)], false => pure (kind, rest)
        | _, _ => pure (if items.any (·.1 = .changeable) then .changeable else .settled, rest)
  | fuel + 1, '\x7b' :: inner =>
      if mostBrackets ≤ brackets then none
      else do
        let (items, _, rest) ← readRow? fuel (brackets + 1) (some '\x7d') inner
        if items.any (·.1 = .changeable) then none
        if items.all (·.2) || items.all (!·.2) then pure (.changeable, rest) else none
  | _ + 1, text => readPlain? (brackets != 0) text

/-- The kind of the literal at the head of a text, and what follows it: an atom, one with a sign, or
a real number with an imaginary one added to it. -/
def readLiteral? (fuel brackets : Nat) (text : List Char) : Option (LiteralKind × List Char) :=
  match fuel with
  | 0 => none
  | fuel + 1 => do
      let bracketed := brackets != 0
      let text := skipGap bracketed false text
      let signed := text.head? = some '-' || text.head? = some '+'
      let unsigned := if signed then skipGap bracketed false (text.drop 1) else text
      let (kind, rest) ← readAtom? fuel brackets unsigned
      let kind ← if !signed then some kind else match kind with
        | .real => some .signedReal
        | .imaginary => some .signedImaginary
        | _ => none
      let rest := skipGap bracketed false rest
      if rest.head? = some '-' || rest.head? = some '+' then
        let (added, rest) ← readAtom? fuel brackets (skipGap bracketed false (rest.drop 1))
        if added = .imaginary && (kind = .real || kind = .signedReal) then
          pure (.settled, skipGap bracketed false rest)
        else none
      else pure (kind, rest)

/-- The literals of a row with commas between them, whether it ends where one more could stand, and
what follows it.  Each has its kind, and whether it is the key of another literal behind a colon. -/
def readRow? (fuel brackets : Nat) (closing : Option Char) (text : List Char) :
    Option (List (LiteralKind × Bool) × Bool × List Char) :=
  match fuel with
  | 0 => none
  | fuel + 1 =>
      let bracketed := brackets != 0
      let text := skipGap bracketed false text
      match ending? closing text with
      | some rest => some ([], true, rest)
      | none => do
          let (kind, rest) ← readLiteral? fuel brackets text
          let (keyed, rest) ← match rest with
            | ':' :: rest => (readLiteral? fuel brackets rest).map fun (_, rest) => (true, rest)
            | rest => some (false, rest)
          match ending? closing rest with
          | some rest => pure ([(kind, keyed)], false, rest)
          | none =>
              match rest with
              | ',' :: rest => do
                  let (items, comma, rest) ← readRow? fuel brackets closing rest
                  pure ((kind, keyed) :: items, comma, rest)
              | _ => none

end

/-- Whether a text is a literal, or some with commas between them. -/
def isLiteral (text : List Char) : Bool :=
  let text := withPlainLineEnds text
  if text.any (·.toNat = 0) then false
  else
    match readRow? (3 * text.length + 3) 0 none text with
    | some (items, _, _) => !items.isEmpty && items.all (!·.2)
    | none => false

end Literal

/-- The parameters of a call at the head of a text: all behind its name, if the text ends with them
on the same line; no parameters if the name is all. -/
def callParameters? (text : List Char) : Option (List Char) :=
  match text.dropWhile fun c => Text.isAlphanumeric c || c = '_' || c = '.' with
  | [] => some ['(', ')']
  | '(' :: rest =>
      if rest.getLast? = some ')' && !rest.contains '\n' then some ('(' :: rest) else none
  | _ => none

/-- Whether what a tag calls can be read: a call with literals, or literals alone. -/
def isCallable (text : List Char) : Bool :=
  Literal.isLiteral ((callParameters? text).getD text)

end GraphGateway.Console
