import GraphGateway.Entries
import GraphGateway.Value.Shown

/-!
Files under the directory at hand.  A path is a row of names; empty names and single dots in it
count for nothing, but two slashes at its start, no more and no less, stay two.  A tilde before the
first name stands for a home.
-/
namespace GraphGateway.Console

/-- The names of a path, and the slashes before them. -/
structure Path where
  lead : String := ""
  names : List String
  deriving DecidableEq, Repr

namespace Path

/-- Whether a path starts at the root. -/
def absolute (path : Path) : Bool := path.lead != ""

def ofText (text : String) : Path where
  lead :=
    match (text.toList.takeWhile (· = '/')).length with
    | 0 => ""
    | 2 => "//"
    | _ => "/"
  names := ((text.splitOn "/").filter fun name => name != "" && name != ".")

/-- The path as it is told; the directory at hand is a dot. -/
def text (path : Path) : String :=
  if !path.absolute && path.names.isEmpty then "."
  else path.lead ++ "/".intercalate path.names

/-- A home without the slashes behind it; what is left of none but slashes is the root. -/
def trimmedHome (home : String) : String :=
  let trimmed := (home.toList.reverse.dropWhile (· = '/')).reverse
  if trimmed.isEmpty then "/" else String.ofList trimmed

/-- The path with the home that a tilde before its first name stands for: that of the account named
behind it, or one's own.  There is none if the home is not known, or has a tilde itself. -/
def expanded? (homes : String → Option String) (path : Path) : Option Path :=
  match path.absolute, path.names.map String.toList, path.names with
  | false, ('~' :: account) :: _, _ :: rest =>
      match (homes (String.ofList account)).map trimmedHome with
      | none => none
      | some home =>
          if home.toList.head? = some '~' then none
          else
            let start := ofText home
            some { start with names := start.names ++ rest }
  | _, _, _ => some path

end Path

inductive FileFault where
  | missing
  | notDirectory
  | isDirectory
  | overlong
  | denied
  deriving DecidableEq, Repr

namespace FileFault

def number : FileFault → Nat
  | missing => 2
  | denied => 13
  | notDirectory => 20
  | isDirectory => 21
  | overlong => 36

def reason : FileFault → String
  | missing => "No such file or directory"
  | denied => "Permission denied"
  | notDirectory => "Not a directory"
  | isDirectory => "Is a directory"
  | overlong => "File name too long"

/-- The text of a fault at a path. -/
def message (fault : FileFault) (path : Path) : String :=
  s!"[Errno {fault.number}] {fault.reason}: {Text.quoted path.text}"

end FileFault

/-- How files are read, and where a text written to a path comes to stand. -/
structure Disk where
  read : Path → Except FileFault String
  destination : Path → Except FileFault String

/-- A file or a directory: below the directory at hand with its names from there, or elsewhere. -/
inductive Place where
  | file (names : List String) (text : String)
  | directory (names : List String)
  | elsewhere

def longestName : Nat := 255

def longestPath : Nat := 4095

/-- The place that is reached by names from the root, where some directories are known.  What stands
above the root is the root. -/
def reachFromRoot (known : List (List String)) (here : List String) :
    List String → Except FileFault Place
  | [] => .ok .elsewhere
  | name :: rest =>
      let there := if name = ".." then here.dropLast else here ++ [name]
      if longestName < name.utf8ByteSize then .error .overlong
      else if name = ".." || known.contains there then reachFromRoot known there rest
      else .error .missing

/-- The place that is reached by names from a directory; `files` has the names of each file.
Nothing is known of what stands above the directory at hand, but that there is more above. -/
def reach (files : List (List String × String)) (here : List String) :
    List String → Except FileFault Place
  | [] => .ok (.directory here)
  | name :: rest =>
      let there := here ++ [name]
      if longestName < name.utf8ByteSize then .error .overlong
      else if name = ".." then
        if here.isEmpty then reachFromRoot [] [] rest else reach files here.dropLast rest
      else
        match files.find? (·.1 == there), files.any (there.isPrefixOf ·.1) with
        | some file, _ => if rest.isEmpty then .ok (.file there file.2) else .error .notDirectory
        | none, true => reach files there rest
        | none, false => .error .missing

namespace Disk

/-- The file or directory at a path. -/
def place (known : List (List String)) (files : List (List String × String)) (path : Path) :
    Except FileFault Place :=
  if longestPath < path.text.utf8ByteSize then .error .overlong
  else if path.absolute then reachFromRoot known [] path.names else reach files [] path.names

/-- A disk with some files at hand, where some directories are known at its root. -/
def ofFiles (files : Entries String) (atRoot : List String) : Disk :=
  let files := files.map fun (name, text) => ((Path.ofText name).names, text)
  let place := place (atRoot.map ([·])) files
  { read := fun path =>
      match place path with
      | .ok (.file _ text) => .ok text
      | .ok _ => .error .isDirectory
      | .error fault => .error fault
    destination := fun path =>
      match place path with
      | .ok (.file names _) => .ok ("/".intercalate names)
      | .ok _ => .error .isDirectory
      | .error .missing =>
          match place { path with names := path.names.dropLast } with
          | .ok (.directory names) =>
              .ok ("/".intercalate (names ++ path.names.getLast?.toList))
          | .ok .elsewhere => .ok path.text
          | .ok (.file _ _) => .error .notDirectory
          | .error fault => .error fault
      | .error fault => .error fault }

end Disk

end GraphGateway.Console
