import GraphGateway.Cypher.Quoted
import GraphGateway.Schema.Model
import GraphGateway.Settings.Features
import GraphGateway.Text.Alphanumeric
import GraphGateway.Text.Character

/-!
The constraints and indices that a served model relies on: identifiers and counters are unique, and
the order of every relationship type is indexed.  Each statement names what it creates.
-/
namespace GraphGateway.Schema

open Cypher (escape)
open Settings (Features)

/-- The text without the underscores at its two ends. -/
def trimUnderscores (text : List Char) : List Char :=
  ((text.dropWhile (· = '_')).reverse.dropWhile (· = '_')).reverse

/-- A name in lower case for what a statement creates on a property of a label. -/
def baseName (label property ending : String) : String :=
  let cleaned := (label ++ "_" ++ property).toList.map fun c =>
    if Text.isAlphanumeric c then c else '_'
  Text.lower (String.ofList (trimUnderscores cleaned)) ++ "_" ++ ending

/-- The first number from `number` on that makes a name not yet used; as many steps as there are
used names are enough. -/
def numberedName (used : List String) (base : String) : Nat → Nat → String
  | 0, number => s!"{base}_{number}"
  | steps + 1, number =>
      let name := s!"{base}_{number}"
      if used.contains name then numberedName used base steps (number + 1) else name

/-- The name itself if it is not yet used, else numbered from two on. -/
def freshName (used : List String) (base : String) : String :=
  if used.contains base then numberedName used base used.length 2 else base

/-- Names for things with these bases, one after another, all different. -/
def freshNames (used : List String) : List String → List String
  | [] => []
  | base :: rest =>
      let name := freshName used base
      name :: freshNames (name :: used) rest

def uniqueness (name node label property : String) : String :=
  s!"CREATE CONSTRAINT {name} IF NOT EXISTS FOR ({node}:{escape label}) " ++
    s!"REQUIRE {node}.{property} IS UNIQUE"

namespace Model

variable (model : Model) (features : Features)

/-- One statement for the identifier of each node type, and one for the counters. -/
def constraints : List String :=
  let bases := model.nodes.map fun node => baseName node.name node.identifier.stored "unique"
  let names := freshNames [] (bases ++ [baseName features.sequenceLabel "name" "unique"])
  (model.nodes.zip names).map (fun (node, name) =>
    uniqueness name "n" node.name (escape node.identifier.stored)) ++
  (names.drop model.nodes.length).map fun name =>
    uniqueness name "s" features.sequenceLabel "name"

/-- The relationship types of the model, each once. -/
def labels : List String :=
  (model.nodes.flatMap fun node => node.relationships.map Relationship.label).eraseDups

/-- One statement for each relationship type. -/
def indices : List String :=
  let labels := model.labels
  let names := freshNames [] (labels.map (baseName · features.sequenceProperty "index"))
  (labels.zip names).map fun (label, name) =>
    s!"CREATE INDEX {name} IF NOT EXISTS FOR ()-[r:{escape label}]-() " ++
      s!"ON (r.{escape features.sequenceProperty})"

end Model

/-- The name that a statement creates something under. -/
def createdName? (statement : String) : Option String :=
  match Text.words statement with
  | "CREATE" :: "CONSTRAINT" :: name :: _ => some name
  | "CREATE" :: "INDEX" :: name :: _ => some name
  | _ => none

def unnamedMessage (statement : String) : String :=
  s!"Could not extract name from: {statement}"

end GraphGateway.Schema
