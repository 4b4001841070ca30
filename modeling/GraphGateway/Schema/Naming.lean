import GraphGateway.Text.LetterCase

/-!
Names of the types and fields made for a node type, and the names that are plain identifiers.
-/
namespace GraphGateway.Schema

/-- The name with its first letter in upper case. -/
def upperFirst (name : String) : String :=
  match name.toList with
  | [] => ""
  | c :: rest => String.ofList (Text.upperOf c ++ rest)

/-- The name with its first letter in lower case. -/
def lowerFirst (name : String) : String :=
  match name.toList with
  | [] => ""
  | c :: rest => String.ofList (Text.lowerOf [] c [] ++ rest)

def isVowel (c : Char) : Bool :=
  ['a', 'e', 'i', 'o', 'u'].contains c

/-- The plural by the regular rules: a last `y` after a consonant becomes `ies`, a hissing end gets
`es`, any other `s`.  The end is looked at in lower case. -/
def pluralize (name : String) : String :=
  let chars := name.toList
  match (Text.lower name).toList.reverse with
  | 'y' :: before :: _ =>
      if chars.length > 1 && !isVowel before then String.ofList chars.dropLast ++ "ies"
      else name ++ "s"
  | 's' :: _ => name ++ "es"
  | 'x' :: _ => name ++ "es"
  | 'z' :: _ => name ++ "es"
  | 'h' :: 'c' :: _ => name ++ "es"
  | 'h' :: 's' :: _ => name ++ "es"
  | _ => name ++ "s"

/-- The root field that lists a node type. -/
def pluralFieldName (typeName : String) : String :=
  lowerFirst (pluralize typeName)

def connectionTypeName (typeName fieldName : String) : String :=
  typeName ++ upperFirst fieldName ++ "Connection"

def edgeTypeName (typeName fieldName : String) : String :=
  typeName ++ upperFirst fieldName ++ "Relationship"

/-- The input of one relationship field, told apart by its ending. -/
def relationshipInputName (typeName fieldName ending : String) : String :=
  typeName ++ upperFirst fieldName ++ ending

/-- A letter or underscore, then letters, digits and underscores, all of ASCII. -/
def isIdentifier : List Char → Bool
  | [] => false
  | c :: rest => (c.isAlpha || c = '_') && rest.all fun part => part.isAlphanum || part = '_'

/-- An identifier, which one line end may follow. -/
def isSimpleIdentifier (name : String) : Bool :=
  let chars := name.toList
  isIdentifier chars || (chars.getLast? == some '\n' && isIdentifier chars.dropLast)

end GraphGateway.Schema
