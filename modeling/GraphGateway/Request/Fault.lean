import GraphGateway.Paging.Cursor
import GraphGateway.Schema.Model

/-!
Why a request is refused, and the other ways in which its handling can end early.
-/
namespace GraphGateway.Request

/-- A reason to refuse a request.  Some reasons may be told in a wording of their own. -/
inductive Fault where
  | missingProperty (properties property : String) (path wording : Option String)
  | notFound (path : Value) (wording : Option String)
  | invalidInput (reason : String) (path : Option String)
  | unbuildable (reason : String) (fragment wording : Option String)
  | cursor (rejection : Paging.CursorRejection)

namespace Fault

/-- A place, unless it is missing or empty. -/
def place? (place : Option String) : Option String :=
  place.filter (!·.isEmpty)

def message : Fault → String
  | missingProperty properties property path wording =>
      let base := s!"Missing required relationship property '{properties}.{property}'"
      wording.getD (match place? path with
        | some place => s!"{base} at {place}"
        | none => base)
  | notFound path wording => wording.getD s!"No match found for {path.plain}"
  | invalidInput reason path =>
      match place? path with
      | some place => s!"Invalid input at {place}: {reason}"
      | none => s!"Invalid input: {reason}"
  | unbuildable reason fragment wording =>
      wording.getD (match place? fragment with
        | some part => s!"Query build error: {reason} (fragment: {part})"
        | none => s!"Query build error: {reason}")
  | cursor rejection => rejection.message

/-- The word for the kind of a fault. -/
def kind : Fault → String
  | missingProperty _ _ _ _ => "MissingRequiredPropertyError"
  | notFound _ _ => "NotFoundError"
  | invalidInput _ _ => "InvalidInputError"
  | unbuildable _ _ _ => "QueryBuildError"
  | cursor _ => "CursorDecodeError"

/-- The parts of a fault by name. -/
def details : Fault → Entries Value
  | missingProperty properties property path _ =>
      [("properties", .text properties), ("property_name", .text property),
       ("path", .textOrNull path)]
  | notFound path _ => [("path", path)]
  | invalidInput reason path => [("reason", .text reason), ("path", .textOrNull path)]
  | unbuildable reason fragment _ =>
      [("reason", .text reason), ("query_fragment", .textOrNull fragment)]
  | cursor rejection =>
      [("cursor", .text rejection.cursor), ("reason", .text rejection.flaw.reason),
       ("expected_discriminator", rejection.expected)]

end Fault

/-- How the handling of a request can end before its answer. -/
inductive Failure where
  | fault (fault : Fault)
  | lookup (fault : Schema.LookupFault)
  /-- A key that a map should have. -/
  | missingKey (key : String)
  /-- A value that is no object where one is asked for an entry. -/
  | notObject
  /-- A value of another kind than an operation needs. -/
  | mismatched
  | orderingKey (fault : Paging.KeyFault)
  /-- An argument that has no value of its type. -/
  | argument
  /-- Fragments that spread themselves, or a payload that nests too deep. -/
  | endless
  /-- A type system that bars every request. -/
  | unservable

namespace Failure

def invalid {α : Type} (reason : String) (path : String) : Except Failure α :=
  .error (.fault (.invalidInput reason (some path)))

def unbuildable {α : Type} (reason : String) (fragment : Option String) : Except Failure α :=
  .error (.fault (.unbuildable reason fragment none))

/-- A cursor that is refused, or that is not read to its end. -/
def ofRejection (rejection : Paging.CursorRejection) : Failure :=
  match rejection.flaw with
  | .endless => .endless
  | _ => .fault (.cursor rejection)

/-- A look-up in the model. -/
def ofLookup {α : Type} (result : Except Schema.LookupFault α) : Except Failure α :=
  result.mapError .lookup

end Failure

end GraphGateway.Request
