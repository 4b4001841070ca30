/-!
Quoted names and texts of Cypher.  A name stands in backquotes, each backquote in it doubled; a text
stands in single quotes, each quote and backslash in it after a backslash.
-/
namespace GraphGateway.Cypher

def doubled : List Char → List Char
  | [] => []
  | c :: rest => if c = '\x60' then c :: c :: doubled rest else c :: doubled rest

/-- A name in backquotes. -/
def escapeChars (name : List Char) : List Char :=
  '\x60' :: (doubled name ++ ['\x60'])

def escape (name : String) : String :=
  String.ofList (escapeChars name.toList)

def slashed : List Char → List Char
  | [] => []
  | c :: rest => if c = '\\' || c = '\'' then '\\' :: c :: slashed rest else c :: slashed rest

/-- A text in single quotes. -/
def quoteChars (text : List Char) : List Char :=
  '\'' :: (slashed text ++ ['\''])

def quote (text : String) : String :=
  String.ofList (quoteChars text.toList)

/-- The name that ends at the first backquote that is not doubled, and what follows it. -/
def readDoubled : List Char → Option (List Char × List Char)
  | [] => none
  | c :: rest =>
      if c = '\x60' then
        match rest with
        | d :: after =>
            if d = '\x60' then (readDoubled after).map fun (name, left) => ('\x60' :: name, left)
            else some ([], rest)
        | [] => some ([], [])
      else (readDoubled rest).map fun (name, left) => (c :: name, left)

/-- The backquoted name at the head of a text. -/
def readEscaped : List Char → Option (List Char × List Char)
  | c :: rest => if c = '\x60' then readDoubled rest else none
  | [] => none

/-- The text that ends at the first quote without a backslash, and what follows it. -/
def readSlashed : List Char → Option (List Char × List Char)
  | [] => none
  | c :: rest =>
      if c = '\'' then some ([], rest)
      else if c = '\\' then
        match rest with
        | d :: after => (readSlashed after).map fun (text, left) => (d :: text, left)
        | [] => none
      else (readSlashed rest).map fun (text, left) => (c :: text, left)

/-- The quoted text at the head of a text. -/
def readQuoted : List Char → Option (List Char × List Char)
  | c :: rest => if c = '\'' then readSlashed rest else none
  | [] => none

end GraphGateway.Cypher
