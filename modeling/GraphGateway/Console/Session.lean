import GraphGateway.Console.Arguments
import GraphGateway.Console.Disk
import GraphGateway.Console.Table
import GraphGateway.Service.Served
import GraphGateway.Store.Session

/-!
What the commands do: print or write the type system of a base schema, check a base schema, and
create the constraints and indices of one.  A session collects what it prints and writes, and ends
with an exit code unless it breaks off.
-/
namespace GraphGateway.Console

open Service (Refusal Served)
open Settings (Connection Features Issue)
open Store (Interruption Link Server)

/-- Why a session breaks off. -/
inductive Breakage where
  | settings (issues : List Issue)
  | refusal (refusal : Refusal)
  | file (fault : FileFault) (path : Path)
  | interruption (interruption : Interruption)
  | markup (fault : MarkupFault)
  /-- A home that is not known. -/
  | homeless

inductive Ending where
  | exit (code : Nat)
  | broken (breakage : Breakage)

/-- What a session has printed and written so far, and its link to the database. -/
structure Desk (σ : Type) where
  printed : String := ""
  written : Entries String := []
  link : Link σ

/-- Where a session takes place: `width` has the cells of the console, `homes` the home of each
account, one's own under no name. -/
structure Surroundings (σ : Type) where
  width : Nat
  homes : Entries String := []
  disk : Disk
  environment : Entries String
  server : Server σ
  spareKey : List UInt8

abbrev Session (σ α : Type) := ExceptT Ending (StateM (Desk σ)) α

namespace Session

variable {σ α : Type}

def exit (code : Nat) : Session σ α := throw (.exit code)

def breakOff (breakage : Breakage) : Session σ α := throw (.broken breakage)

/-- Prints a line as it is. -/
def printPlain (line : String) : Session σ Unit :=
  modify fun desk => { desk with printed := desk.printed ++ line ++ "\n" }

/-- Works with the database. -/
def withLink (access : Store.Access σ α) : Session σ (Except Interruption α) := do
  let desk ← get
  let (result, link) := access.run desk.link
  set { desk with link }
  pure result

end Session

open Session

variable {σ : Type} (surroundings : Surroundings σ)

/-- Prints a marked text in lines that fit the console. -/
def print (text : String) : Session σ Unit :=
  match Marked.ofText text >>= Marked.drawn with
  | .ok shown =>
      (wrapped surroundings.width .fold shown).forM fun line =>
        printPlain (String.ofList (truncated surroundings.width .fold line))
  | .error fault => breakOff (.markup fault)

def printTable (table : Table) : Session σ Unit :=
  match table.lines surroundings.width with
  | .ok lines => lines.forM printPlain
  | .error fault => breakOff (.markup fault)

/-- The home of an account.  The environment tells one's own. -/
def homeOf? (account : String) : Option String :=
  let known := surroundings.homes.get? account
  if account = "" then (Entries.get? surroundings.environment "HOME").or known else known

def readSchema (path : Path) : Session σ String := do
  match path.expanded? (homeOf? surroundings) with
  | none => breakOff .homeless
  | some found =>
      match surroundings.disk.read found with
      | .ok text => pure text
      | .error fault =>
          let told := escapeMarkup (fault.message found)
          print surroundings s!"[red]Cannot read {path.text}: {told}[/red]"
          exit 2

/-- The settings that the environment gives. -/
def readFeatures (plain : Bool) : Session σ Features := do
  match (Features.ofEnvironment surroundings.environment).1 with
  | .ok features =>
      pure (if plain then { features with relationshipProperties := false } else features)
  | .error issues => breakOff (.settings issues)

/-- All problems of a schema in a table. -/
def problemTable (problems : List Schema.Problem) : Table where
  title := s!"{problems.length} schema error(s)"
  head := ["Error", "Message"]
  rows := problems.map fun problem => [problem.kind, escapeMarkup problem.message]

/-- Builds what serves a base schema, or tells why it is not served. -/
def buildServed (path : Path) (plain : Bool) : Session σ Served := do
  let text ← readSchema surroundings path
  let features ← readFeatures surroundings plain
  match Served.ofText text features surroundings.spareKey with
  | .ok served => pure served
  | .error (.problems problems) =>
      printTable surroundings (problemTable problems)
      exit 1
  | .error (.unparsed _) => refuseText
  | .error (.types .hollow) => refuseText
  | .error refusal => breakOff (.refusal refusal)
where
  refuseText : Session σ Served := do
    print surroundings "[red]Invalid SDL: the text does not parse[/red]"
    exit 1

def writeText (path : Path) (text : String) : Session σ Unit :=
  match surroundings.disk.destination path with
  | .error fault => breakOff (.file fault path)
  | .ok name => modify fun desk => { desk with written := desk.written.put name text }

def augment (schema : Path) (output : Option Path) (plain : Bool) : Session σ Unit := do
  let served ← buildServed surroundings schema plain
  match output with
  | none => printPlain served.types.text
  | some path =>
      writeText surroundings path served.types.text
      print surroundings s!"[green]Wrote augmented schema to {path.text}[/green]"

/-- A relationship in a summary: its field, its type, its direction and its properties. -/
def relationshipSummary (relationship : Schema.Relationship) : String :=
  let ending := match Request.Fault.place? relationship.properties with
    | some properties => s!", {properties})"
    | none => ")"
  s!"{relationship.name} ({relationship.label}, {relationship.direction.text}" ++ ending

def summaryTable (model : Schema.Model) : Table where
  title := "Schema summary"
  head := ["Node type", "Relationships"]
  rows := model.nodes.map fun node =>
    let relationships := ", ".intercalate (node.relationships.map relationshipSummary)
    [node.name, if relationships.isEmpty then "-" else relationships]

def validate (schema : Path) (plain : Bool) : Session σ Unit := do
  let served ← buildServed surroundings schema plain
  printTable surroundings (summaryTable served.model)
  print surroundings "[green]Schema is valid[/green]"

def createdTable (created : Entries Bool) : Table where
  title := "Constraints and indices"
  head := ["Name", "Status"]
  rows := created.map fun (name, done) =>
    [name, if done then "[green]ok[/green]" else "[red]failed[/red]"]

def initDatabase (schema : Path) : Session σ Unit := do
  let served ← buildServed surroundings schema false
  match (Connection.ofEnvironment surroundings.environment).1 with
  | .error issues => breakOff (.settings issues)
  | .ok connection =>
      let server := surroundings.server
      let created ← withLink (Store.whileConnected server connection
        (Store.createAllConstraints server connection served.model served.features))
      match created with
      | .ok created => printTable surroundings (createdTable created)
      | .error (.store fault) =>
          print surroundings s!"[red]{escapeMarkup fault.message}[/red]"
          exit 1
      | .error interruption => breakOff (.interruption interruption)

def Command.perform : Command → Session σ Unit
  | .augment schema output plain =>
      Console.augment surroundings (.ofText schema) (output.map .ofText) plain
  | .validate schema plain => Console.validate surroundings (.ofText schema) plain
  | .initDatabase schema => Console.initDatabase surroundings (.ofText schema)

/-- Does what a command line asks for.  Help and misuse print nothing here. -/
def Wish.grant : Wish → Session σ Unit
  | .run command => command.perform surroundings
  | .help => pure ()
  | .misuse => exit 2

/-- A session on a command line: how it ends, and its desk then. -/
def session (arguments : List String) (state : σ) : Ending × Desk σ :=
  match ((Wish.ofArguments arguments).grant surroundings).run { link := { state } } with
  | (.ok (), desk) => (.exit 0, desk)
  | (.error ending, desk) => (ending, desk)

end GraphGateway.Console
