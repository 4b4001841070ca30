import GraphGateway.Entries

/-!
Arguments of the command line.  Options stand before or between the other arguments; a long option
may have its value behind `=`, a short one right behind its letter, and short switches may stand
together.  All after `--` is no option.
-/
namespace GraphGateway.Console

structure OptionForm where
  name : String
  letter : Option Char := none
  takesValue : Bool := false

/-- Options and other arguments as they were given; a switch has no value. -/
structure Given where
  options : List (String × Option String) := []
  others : List String := []
  deriving Repr

namespace Given

def has (given : Given) (name : String) : Bool :=
  given.options.any (·.1 == name)

/-- The value of an option that was given; of several values the last. -/
def value? (given : Given) (name : String) : Option String :=
  (given.options.reverse.find? (·.1 == name)).bind Prod.snd

def option (given : Given) (name : String) (value : Option String) : Given :=
  { given with options := given.options ++ [(name, value)] }

def other (given : Given) (argument : String) : Given :=
  { given with others := given.others ++ [argument] }

end Given

/-- The part before the first `=` and the part behind it, if there is one. -/
def splitAssigned (argument : String) : String × Option String :=
  let chars := argument.toList
  let name := String.ofList (chars.takeWhile (· != '='))
  match chars.dropWhile (· != '=') with
  | _ :: value => (name, some (String.ofList value))
  | [] => (name, none)

/-- Reads letters that stand together behind a dash; nothing if one of them is unknown or lacks its
value. -/
def readLetters (forms : List OptionForm) (given : Given) (rest : List String) :
    List Char → Option (Given × List String)
  | [] => some (given, rest)
  | c :: letters =>
      match forms.find? (·.letter == some c) with
      | none => none
      | some form =>
          if form.takesValue then
            match letters, rest with
            | _ :: _, _ => some (given.option form.name (some (String.ofList letters)), rest)
            | [], value :: rest => some (given.option form.name (some value), rest)
            | [], [] => none
          else readLetters forms (given.option form.name none) rest letters

/-- Reads one option, with its value if it takes one. -/
def readOption (forms : List OptionForm) (given : Given) (argument : String) (rest : List String) :
    Option (Given × List String) :=
  let (name, assigned) := splitAssigned argument
  match forms.find? fun form => "--" ++ form.name == name with
  | some form =>
      match form.takesValue, assigned, rest with
      | true, some value, _ => some (given.option form.name (some value), rest)
      | true, none, value :: rest => some (given.option form.name (some value), rest)
      | true, none, [] => none
      | false, none, _ => some (given.option form.name none, rest)
      | false, some _, _ => none
  | none =>
      match argument.toList with
      | '-' :: '-' :: _ => none
      | _ :: letters => readLetters forms given rest letters
      | [] => none

def looksLikeOption (argument : String) : Bool :=
  match argument.toList with
  | '-' :: _ :: _ => true
  | _ => false

/-- Reads arguments; with `mixed` options may stand behind other arguments.  Every step takes an
argument, so that fuel of their number is enough. -/
def readArguments (forms : List OptionForm) (mixed : Bool) :
    Nat → Given → List String → Option Given
  | 0, given, rest => some { given with others := given.others ++ rest }
  | _, given, [] => some given
  | fuel + 1, given, argument :: rest =>
      if argument = "--" then some { given with others := given.others ++ rest }
      else if looksLikeOption argument then
        (readOption forms given argument rest).bind fun (given, rest) =>
          readArguments forms mixed fuel given rest
      else if mixed then readArguments forms mixed fuel (given.other argument) rest
      else some { given with others := given.others ++ argument :: rest }

inductive Command where
  | augment (schema : String) (output : Option String) (plain : Bool)
  | validate (schema : String) (plain : Bool)
  | initDatabase (schema : String)
  deriving DecidableEq, Repr

/-- What a command line asks for. -/
inductive Wish where
  | run (command : Command)
  | help
  | misuse
  deriving DecidableEq, Repr

def helpForm : OptionForm := { name := "help" }

def outputForm : OptionForm := { name := "output", letter := some 'o', takesValue := true }

/-- The switch that takes no account of relationship properties. -/
def plainForm : OptionForm := { name := "disable-relationship-properties" }

/-- Whether a text can name a file. -/
def canBePath (text : String) : Bool := !text.toList.any (·.toNat = 0)

/-- Reads the arguments of a command that takes one schema. -/
def readCommand (forms : List OptionForm) (make : String → Given → Command)
    (arguments : List String) : Wish :=
  match readArguments (helpForm :: forms) true arguments.length {} arguments with
  | none => .misuse
  | some given =>
      if given.has helpForm.name then .help
      else
        match given.others with
        | [schema] =>
            if canBePath schema && (given.value? outputForm.name).all canBePath then
              .run (make schema given)
            else .misuse
        | _ => .misuse

/-- Reads a command with its own arguments, if there is such a command. -/
def Wish.ofCommand? : List String → Option Wish
  | "augment" :: rest =>
      some (readCommand [outputForm, plainForm] (fun schema given =>
        .augment schema (given.value? outputForm.name) (given.has plainForm.name)) rest)
  | "validate" :: rest =>
      some (readCommand [plainForm]
        (fun schema given => .validate schema (given.has plainForm.name)) rest)
  | "init-db" :: rest => some (readCommand [] (fun schema _ => .initDatabase schema) rest)
  | _ => none

/-- Reads the options for all commands. -/
def readCommon (arguments : List String) : Option Given :=
  readArguments [helpForm, { name := "verbose", letter := some 'v' }] false arguments.length {}
    arguments

/-- Reads a command line: options for all commands, then a command with its own arguments.  Where no
command stands, what does is read for options once more, so that help is found behind `--`. -/
def Wish.ofArguments (arguments : List String) : Wish :=
  match readCommon arguments with
  | none => .misuse
  | some given =>
      if given.has helpForm.name then .help
      else
        match ofCommand? given.others with
        | some wish => wish
        | none =>
            if (readCommon given.others).any (·.has helpForm.name) then .help else .misuse

end GraphGateway.Console
