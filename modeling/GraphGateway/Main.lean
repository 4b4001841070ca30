import GraphGateway.Console.Session
import GraphGateway.Store.Script

/-!
The program on the command line.  It reads the schema that the arguments name, lets a session run on
it and carries out what the session printed and wrote.  No database can be reached from here, so
that every attempt to connect finds none.
-/
namespace GraphGateway.Main

open Console
open Settings (Connection Features Override)

/-- The fault that an error of the system stands for. -/
def fileFault : IO.Error → FileFault
  | .permissionDenied _ _ _ => .denied
  | .inappropriateType _ _ _ => .isDirectory
  | _ => .missing

/-- The text of the file at a path. -/
def readText (path : Path) : IO (Except FileFault String) := do
  try
    pure (.ok (← IO.FS.readFile path.text))
  catch error => pure (.error (fileFault error))

def schemaOf : Command → String
  | .augment schema _ _ => schema
  | .validate schema _ => schema
  | .initDatabase schema => schema

/-- A disk on which a path reads as it was found to read. -/
def diskOf (path : Path) (found : Except FileFault String) : Disk where
  read wanted := if wanted = path then found else .error .missing
  destination path := .ok path.text

/-- The variables of the environment that settings and paths heed. -/
def readEnvironment : IO (Entries String) := do
  let sources := "HOME" :: (Features.overrides ++ Connection.overrides).map Override.source
  let found ← sources.mapM fun source => do
    let value ← IO.getEnv source
    pure (value.map (source, ·))
  pure (found.filterMap id)

def usage : String :=
  "Usage: graph-gateway [--verbose] (augment | validate | init-db) SCHEMA [OPTIONS]\n" ++
  "\n" ++
  "  augment SCHEMA [-o FILE] [--disable-relationship-properties]\n" ++
  "      print the type system of a base schema, or write it to a file\n" ++
  "  validate SCHEMA [--disable-relationship-properties]\n" ++
  "      check a base schema\n" ++
  "  init-db SCHEMA\n" ++
  "      create the constraints and indices of a base schema\n"

/-- The text of an issue for people. -/
def issueText (issue : Settings.Issue) : String :=
  let field := issue.field.getD "settings"
  let flaw := issue.flaw.message?.getD issue.flaw.word
  s!"{field}: {flaw}"

/-- The text of a breakage for people. -/
def breakageText : Breakage → String
  | .settings issues => "\n".intercalate (issues.map issueText)
  | .refusal _ => "the schema cannot be built"
  | .file fault path => fault.message path
  | .interruption interruption => interruption.message
  | .markup _ => "the markup of a text is not sound"
  | .homeless => "the home of the schema is not known"

/-- The cells of a line that is printed. -/
def lineWidth : Nat := 80

/-- Lets a session run for a command and carries it out. -/
def perform (command : Command) : IO UInt32 := do
  let environment ← readEnvironment
  let named := Path.ofText (schemaOf command)
  let path := (named.expanded? fun account =>
    if account = "" then environment.get? "HOME" else none).getD named
  let surroundings : Surroundings Store.Script :=
    { width := lineWidth
      disk := diskOf path (← readText path)
      environment
      server := Store.Server.scripted
      spareKey := (← IO.getRandomBytes 32).toList }
  let unreachable : Store.Script := { fates := List.replicate 10 (.unmade .unavailable) }
  let (result, desk) := (command.perform surroundings).run { link := { state := unreachable } }
  for (name, text) in desk.written do
    IO.FS.writeFile name text
  IO.print desk.printed
  match result with
  | .ok () => pure 0
  | .error (.exit code) => pure code.toUInt32
  | .error (.broken breakage) =>
      IO.eprintln (breakageText breakage)
      pure 1

end GraphGateway.Main

def main (arguments : List String) : IO UInt32 := do
  match GraphGateway.Console.Wish.ofArguments arguments with
  | .run command => GraphGateway.Main.perform command
  | .help =>
      IO.print GraphGateway.Main.usage
      pure 0
  | .misuse =>
      IO.eprint GraphGateway.Main.usage
      pure 2
