import GraphGateway.Graphql.Document

/-!
Reading documents from tokens, one function for each form of the grammar.  A reader answers what it
read and the tokens that are left, or nothing if the tokens do not start with its form.  Fuel bounds
the depth of nesting and the length of lists; the number of tokens is enough of it.
-/
namespace GraphGateway.Graphql

/-- Readers of one form each. -/
abbrev Reader (α : Type) := List Token → Option (α × List Token)

namespace Reader

variable {α β : Type}

def andThen (first : Reader α) (next : α → Reader β) : Reader β := fun tokens =>
  match first tokens with
  | some (item, rest) => next item rest
  | none => none

def succeed (item : α) : Reader α := fun tokens => some (item, tokens)

def refuse : Reader α := fun _ => none

instance : Monad Reader where
  pure := succeed
  bind := andThen

/-- Just this token. -/
def expect (token : Token) : Reader Unit
  | next :: rest => if next = token then some ((), rest) else none
  | [] => none

/-- Whether this token comes next; if so it is taken. -/
def skip (token : Token) : Reader Bool
  | next :: rest => if next = token then some (true, rest) else some (false, next :: rest)
  | [] => some (false, [])

/-- Whether this token comes next. -/
def sees (token : Token) : Reader Bool := fun tokens => some (tokens.head? == some token, tokens)

def name : Reader String
  | .name text :: rest => some (text, rest)
  | _ => none

def keyword (word : String) : Reader Unit := expect (.name word)

/-- One item or more, up to the closing token. -/
def many (item : Reader α) (close : Token) : Nat → Reader (List α)
  | 0, _ => none
  | fuel + 1, tokens =>
      match item tokens with
      | none => none
      | some (first, next :: rest) =>
          if next = close then some ([first], rest)
          else Json.consFirst first (many item close fuel (next :: rest))
      | some (_, []) => none

/-- Any number of items, up to the closing token. -/
def any (item : Reader α) (close : Token) (fuel : Nat) : Reader (List α)
  | next :: rest => if next = close then some ([], rest) else many item close fuel (next :: rest)
  | [] => none

/-- One item or more between two tokens, or nothing at all. -/
def optionalMany (opening : Token) (item : Reader α) (close : Token) (fuel : Nat) :
    Reader (List α)
  | next :: rest => if next = opening then many item close fuel rest else some ([], next :: rest)
  | [] => some ([], [])

/-- Items with a separator between them. -/
def separated (item : Reader α) (separator : Token) : Nat → Reader (List α)
  | 0, _ => none
  | fuel + 1, tokens =>
      match item tokens with
      | none => none
      | some (first, next :: rest) =>
          if next = separator then Json.consFirst first (separated item separator fuel rest)
          else some ([first], next :: rest)
      | some (first, []) => some ([first], [])

/-- Items with a separator between them and perhaps before them. -/
def delimited (item : Reader α) (separator : Token) (fuel : Nat) : Reader (List α) := do
  let _ ← skip separator
  separated item separator fuel

/-- Items as long as a token starts one. -/
def repeated (item : Reader α) (start : Token) : Nat → Reader (List α)
  | 0, _ => none
  | fuel + 1, tokens =>
      if tokens.head? = some start then
        match item tokens with
        | some (first, rest) => Json.consFirst first (repeated item start fuel rest)
        | none => none
      else some ([], tokens)

/-- A name with a value after a colon. -/
def entry (value : Reader α) : Reader (String × α) := do
  let key ← name
  expect .colon
  let item ← value
  pure (key, item)

end Reader

open Reader

/-- The value of a name that stands where a value does. -/
def Literal.ofName : String → Literal
  | "true" => .boolean true
  | "false" => .boolean false
  | "null" => .null
  | name => .enum name

/-- A value that holds no others; a constant is no variable. -/
def readLeaf (constant : Bool) : Reader Literal
  | .int spelling :: rest => some (.int spelling, rest)
  | .float spelling :: rest => some (.float spelling, rest)
  | .string content block :: rest => some (.string content block, rest)
  | .name name :: rest => some (.ofName name, rest)
  | .dollar :: .name name :: rest => if constant then none else some (.variable name, rest)
  | _ => none

/-- A value; a constant holds no variables.  Lists and objects may nest as deep as the last number
says. -/
def readLiteral (constant : Bool) (fuel : Nat) : Nat → Reader Literal
  | 0, tokens => readLeaf constant tokens
  | depth + 1, tokens =>
      match tokens with
      | .bracketOpen :: rest =>
          (any (readLiteral constant fuel depth) .bracketClose fuel rest).map
            fun (items, after) => (.list items, after)
      | .braceOpen :: rest =>
          (any (entry (readLiteral constant fuel depth)) .braceClose fuel rest).map
            fun (fields, after) => (.object fields, after)
      | _ => readLeaf constant tokens

def readArguments (constant : Bool) (fuel depth : Nat) : Reader Arguments :=
  optionalMany .parenOpen (entry (readLiteral constant fuel depth)) .parenClose fuel

def readDirective (constant : Bool) (fuel depth : Nat) : Reader Directive := do
  expect .atSign
  let name ← name
  let arguments ← readArguments constant fuel depth
  pure { name, arguments }

def readDirectives (constant : Bool) (fuel depth : Nat) : Reader (List Directive) :=
  repeated (readDirective constant fuel depth) .atSign fuel

/-- Directives that hold no variables and stand in nothing that nests. -/
def readConstantDirectives (fuel : Nat) : Reader (List Directive) :=
  readDirectives true fuel nestingLimit

/-- The value after an equals sign, if there is one. -/
def readDefault (fuel : Nat) : Reader (Option Literal) := do
  let hasDefault ← skip .equals
  if hasDefault then some <$> readLiteral true fuel nestingLimit else pure none

def readType : Reader TypeExpr := TypeExpr.read? nestingLimit

/-- A description, which says nothing to the reader. -/
def skipDescription : Reader Bool
  | .string _ _ :: rest => some (true, rest)
  | tokens => some (false, tokens)

/-- A name that is not the word before a type condition. -/
def readFragmentName : Reader String := do
  let name ← name
  if name = "on" then refuse else pure name

/-- What stands after three points: the name of a fragment, or a selection set with a condition or
without one. -/
def readSpread (selections : Reader (List Selection)) (fuel depth : Nat) : Reader Selection :=
  fun tokens =>
  match tokens with
  | .name word :: rest =>
      if word = "on" then
        (do
          let condition ← name
          let directives ← readDirectives false fuel depth
          let inner ← selections
          pure (Selection.inline (some condition) directives inner) : Reader Selection) rest
      else
        (do
          let directives ← readDirectives false fuel depth
          pure (Selection.spread word directives) : Reader Selection) rest
  | _ =>
      (do
        let directives ← readDirectives false fuel depth
        let inner ← selections
        pure (Selection.inline none directives inner) : Reader Selection) tokens

/-- A field; a name before a colon is its key. -/
def readField (selections : Reader (List Selection)) (fuel depth : Nat) : Reader Selection := do
  let first ← name
  let renamed ← skip .colon
  let name ← if renamed then name else pure first
  let arguments ← readArguments false fuel depth
  let directives ← readDirectives false fuel depth
  let nested ← sees .braceOpen
  let inner ← if nested then selections else pure []
  pure (.field (if renamed then some first else none) name arguments directives inner)

/-- Selections in braces, which may nest as deep as the last number says; what stands in them nests
in them too. -/
def readSelections (fuel : Nat) : Nat → Reader (List Selection)
  | depth + 1, .braceOpen :: rest =>
      many (fun tokens =>
        match tokens with
        | .spread :: after => readSpread (readSelections fuel depth) fuel depth after
        | _ => readField (readSelections fuel depth) fuel depth tokens) .braceClose fuel rest
  | _, _ => none

def readVariable (fuel : Nat) : Reader VariableDeclaration := do
  let _ ← skipDescription
  expect .dollar
  let name ← name
  expect .colon
  let type ← readType
  let default ← readDefault fuel
  let directives ← readConstantDirectives fuel
  pure { name, type, default, directives }

def readOperation (kind : OperationKind) (fuel : Nat) : Reader Definition := do
  let name ← (fun tokens =>
    match tokens with
    | .name text :: rest => some (some text, rest)
    | _ => some (none, tokens) : Reader (Option String))
  let declarations ← optionalMany .parenOpen (readVariable fuel) .parenClose fuel
  let directives ← readDirectives false fuel nestingLimit
  let selections ← readSelections fuel nestingLimit
  pure (.operation { kind, name, declarations, directives, selections })

def readFragment (fuel : Nat) : Reader Definition := do
  let name ← readFragmentName
  keyword "on"
  let condition ← Reader.name
  let directives ← readDirectives false fuel nestingLimit
  let selections ← readSelections fuel nestingLimit
  pure (.fragment { name, condition, directives, selections })

/-- The declaration of an argument or of a field of an input. -/
def readInputValue (fuel : Nat) : Reader Unit := do
  let _ ← skipDescription
  let _ ← name
  expect .colon
  let _ ← readType
  let _ ← readDefault fuel
  let _ ← readConstantDirectives fuel
  pure ()

def readFieldDeclaration (fuel : Nat) : Reader FieldDeclaration := do
  let _ ← skipDescription
  let name ← name
  let _ ← optionalMany .parenOpen (readInputValue fuel) .parenClose fuel
  expect .colon
  let type ← readType
  let directives ← readConstantDirectives fuel
  pure { name, type, directives }

/-- The names of the interfaces that a type declares. -/
def readInterfaces (fuel : Nat) : Reader (List String) := fun tokens =>
  match tokens with
  | .name "implements" :: rest => delimited name .ampersand fuel rest
  | _ => some ([], tokens)

/-- A type with fields, and whether anything follows its name. -/
def readComposite (fuel : Nat) : Reader (CompositeDeclaration × Bool) := do
  let name ← name
  let interfaces ← readInterfaces fuel
  let directives ← readConstantDirectives fuel
  let fields ← optionalMany .braceOpen (readFieldDeclaration fuel) .braceClose fuel
  pure ({ name, directives, fields },
    !(interfaces.isEmpty && directives.isEmpty && fields.isEmpty))

def readUnion (fuel : Nat) : Reader Bool := do
  let _ ← name
  let directives ← readConstantDirectives fuel
  let hasMembers ← skip .equals
  let members ← if hasMembers then delimited name .bar fuel else pure []
  pure (!(directives.isEmpty && members.isEmpty))

/-- A value of an enum, which is none of three words. -/
def readEnumValue (fuel : Nat) : Reader String := do
  let _ ← skipDescription
  let value ← name
  let _ ← readConstantDirectives fuel
  if value = "true" || value = "false" || value = "null" then refuse else pure value

def readEnum (fuel : Nat) : Reader (EnumDeclaration × Bool) := do
  let name ← name
  let directives ← readConstantDirectives fuel
  let values ← optionalMany .braceOpen (readEnumValue fuel) .braceClose fuel
  pure ({ name, values }, !(directives.isEmpty && values.isEmpty))

def readInput (fuel : Nat) : Reader Bool := do
  let _ ← name
  let directives ← readConstantDirectives fuel
  let fields ← optionalMany .braceOpen (readInputValue fuel) .braceClose fuel
  pure (!(directives.isEmpty && fields.isEmpty))

def operationKinds : List (String × OperationKind) :=
  [("query", .query), ("mutation", .mutation), ("subscription", .subscription)]

/-- A kind of operation and the type that serves it. -/
def readRootType : Reader Unit := do
  let kind ← name
  expect .colon
  let _ ← name
  if (operationKinds.lookup kind).isSome then pure () else refuse

/-- The places that a directive can be declared for. -/
def directiveLocations : List String :=
  ["QUERY", "MUTATION", "SUBSCRIPTION", "FIELD", "FRAGMENT_DEFINITION", "FRAGMENT_SPREAD",
   "VARIABLE_DEFINITION", "INLINE_FRAGMENT", "SCHEMA", "SCALAR", "OBJECT", "FIELD_DEFINITION",
   "ARGUMENT_DEFINITION", "INTERFACE", "UNION", "ENUM", "ENUM_VALUE", "INPUT_OBJECT",
   "INPUT_FIELD_DEFINITION"]

def readLocation : Reader Unit := do
  let location ← name
  if directiveLocations.contains location then pure () else refuse

def readDirectiveDeclaration (fuel : Nat) : Reader Unit := do
  expect .atSign
  let _ ← name
  let _ ← optionalMany .parenOpen (readInputValue fuel) .parenClose fuel
  let _ ← skip (.name "repeatable")
  keyword "on"
  let _ ← delimited readLocation .bar fuel
  pure ()

/-- The definition of a type system after its first word, if the word starts one. -/
def readDeclaration? (word : String) (fuel : Nat) : Option (Reader Definition) :=
  match word with
  | "schema" => some do
      let _ ← readConstantDirectives fuel
      expect .braceOpen
      let _ ← many readRootType .braceClose fuel
      pure (.other .schema)
  | "scalar" => some do
      let name ← name
      let _ ← readConstantDirectives fuel
      pure (.scalar name)
  | "type" => some do
      let (declaration, _) ← readComposite fuel
      pure (.object declaration)
  | "interface" => some do
      let (declaration, _) ← readComposite fuel
      pure (.interface declaration)
  | "union" => some do
      let _ ← readUnion fuel
      pure (.other .union)
  | "enum" => some do
      let (declaration, _) ← readEnum fuel
      pure (.enum declaration)
  | "input" => some do
      let _ ← readInput fuel
      pure (.other .input)
  | "directive" => some do
      readDirectiveDeclaration fuel
      pure (.other .directive)
  | _ => none

/-- What an extension adds to; it has to add something. -/
def readExtension (fuel : Nat) : Reader Definition := do
  let word ← name
  let (adds, kind) ← (match word with
    | "schema" => do
        let directives ← readConstantDirectives fuel
        let types ← optionalMany .braceOpen readRootType .braceClose fuel
        pure (!(directives.isEmpty && types.isEmpty), .schemaExtension)
    | "scalar" => do
        let _ ← name
        let directives ← readConstantDirectives fuel
        pure (!directives.isEmpty, .scalarExtension)
    | "type" => do
        let (_, adds) ← readComposite fuel
        pure (adds, .objectExtension)
    | "interface" => do
        let (_, adds) ← readComposite fuel
        pure (adds, .interfaceExtension)
    | "union" => do
        let adds ← readUnion fuel
        pure (adds, .unionExtension)
    | "enum" => do
        let (_, adds) ← readEnum fuel
        pure (adds, .enumExtension)
    | "input" => do
        let adds ← readInput fuel
        pure (adds, .inputExtension)
    | _ => refuse : Reader (Bool × OtherDeclaration))
  if adds then pure (.other kind) else refuse

/-- An operation or a fragment after its first word, if the word starts one. -/
def readExecutable? (word : String) (fuel : Nat) : Option (Reader Definition) :=
  match operationKinds.lookup word with
  | some kind => some (readOperation kind fuel)
  | none => if word = "fragment" then some (readFragment fuel) else none

/-- A definition.  All but extensions and selections without a word before them may have a
description. -/
def readDefinition (fuel : Nat) : Reader Definition := fun tokens =>
  match tokens with
  | .braceOpen :: _ =>
      (do
        let selections ← readSelections fuel nestingLimit
        pure (.operation
          { kind := .query, name := none, declarations := [], directives := [], selections }) :
        Reader Definition) tokens
  | _ =>
      (do
        let isDescribed ← skipDescription
        let word ← name
        match readDeclaration? word fuel <|> readExecutable? word fuel with
        | some read => read
        | none => if word = "extend" && !isDescribed then readExtension fuel else refuse :
        Reader Definition) tokens

/-- One definition or more, up to the end of the tokens. -/
def readDefinitions (depth : Nat) : Nat → List Token → Option Document
  | 0, _ => none
  | fuel + 1, tokens =>
      match readDefinition depth tokens with
      | none => none
      | some (definition, []) => some [definition]
      | some (definition, rest) => (readDefinitions depth fuel rest).map (definition :: ·)

/-- The document that a text spells. -/
def Document.ofText (text : String) : Except SyntaxFault Document := do
  let tokens ← Token.ofText text
  let fuel := tokens.length + 1
  match readDefinitions fuel fuel tokens with
  | some document => pure document
  | none => throw .malformed

end GraphGateway.Graphql
