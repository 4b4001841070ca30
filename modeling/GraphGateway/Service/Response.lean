import GraphGateway.Graphql.Validity
import GraphGateway.Service.Served
import GraphGateway.Store.Server
import GraphGateway.Statement.Matches

/-!
Responses.  A request is read, validated and compiled before the database sees any of it; the
statements of all its root fields then run together, and their rows are answered field by field.  A
request that is refused has errors and no data.
-/
namespace GraphGateway.Service

open Graphql (Document)
open Request (Failure Fault Operation RootField)
open Statement (Compiled)
open Store (Interruption)

/-- What a client is told to be wrong. -/
inductive ClientError where
  | unparsed
  /-- A request that does not suit the type system, or variables that do not suit the request. -/
  | invalid
  /-- A request that is not checked to its end. -/
  | overlong
  | fault (fault : Fault) (path : Option String)

structure Response where
  data : Option (Entries Value) := none
  errors : List ClientError := []

def Response.rejected (error : ClientError) : Response := { errors := [error] }

/-- Work with a state that can be interrupted. -/
abbrev Course (σ α : Type) := ExceptT Interruption (StateM σ) α

/-- Runs statements, all of them or none, and answers what each is answered with. -/
abbrev Executor (σ : Type) := List Compiled → Bool → Course σ (List Value)

/-- Ends a course with a failure. -/
def settled {σ α : Type} (result : Except Failure α) : Course σ α :=
  match result with
  | .ok value => pure value
  | .error failure => throw (.request failure)

namespace Served

variable (served : Served)

/-- The statements of an operation by the keys of their fields. -/
def compileAll (fields : List RootField) : Except Failure (Entries Compiled) :=
  fields.foldlM (fun (statements : Entries Compiled) (field : RootField) =>
    if field.isTypename then pure statements
    else do
      let statement ← served.basis.compile field
      pure (statements.put field.key statement)) []

/-- The statements of an operation, one for each root field that needs one. -/
def compileEach (fields : List RootField) : Except Failure (List Compiled) :=
  (fields.filter fun field => !field.isTypename).mapM served.basis.compile

/-- The errors of the entries of a field that matched nothing. -/
def unmatchedErrors (key : String) (paths : List Value) : List ClientError :=
  paths.map fun path => .fault (.notFound path none) (some key)

/-- Answers one root field from the rows of its statement. -/
def answerRoot (statements : Entries Compiled) (rows : Entries Value) :
    RootField → Except Failure (Value × List ClientError)
  | .typename _ typeName => .ok (.text typeName, [])
  | field =>
      match statements.get? field.key, rows.get? field.key with
      | some statement, some rows => do
          let value ← Statement.answer served.codec rows statement.shape
          let unmatched ← statement.unmatched rows
          pure (value, unmatchedErrors field.key unmatched)
      | _, _ => .error (.missingKey field.key)

/-- Answers the root fields one after another. -/
def answerAll (statements : Entries Compiled) (rows : Entries Value)
    (fields : List RootField) : Except Failure (Entries Value × List ClientError) :=
  fields.foldlM (fun (sofar : Entries Value × List ClientError) (field : RootField) => do
    let (value, errors) ← served.answerRoot statements rows field
    pure (sofar.1.put field.key value, sofar.2 ++ errors)) ([], [])

/-- Compiles an operation, runs it and answers it. -/
def run {σ : Type} (executor : Executor σ) (operation : Operation) : Course σ Response := do
  let statements ← settled (served.compileAll operation.fields)
  let rows ← executor (statements.map Prod.snd) operation.isMutation
  let rows := Entries.ofPairs (statements.keys.zip rows)
  let (data, errors) ← settled (served.answerAll statements rows operation.fields)
  pure { data := some data, errors }

/-- The values of the variables of the operation that is wanted, if there is such an operation. -/
def variablesFor? (document : Document) (sent : Entries Value) (wanted : Option String) :
    Option (Entries Value) :=
  match document.operation? wanted with
  | some operation => Graphql.coerceVariables? served.types operation.declarations sent
  | none => some []

/-- What a failure is to the client: a fault rejects the request, all else ends the course. -/
def rejection {σ : Type} : Interruption → Course σ Response
  | .request (.fault fault) => pure (.rejected (.fault fault none))
  | interruption => throw interruption

/-- Responds to a request. -/
def respond {σ : Type} (executor : Executor σ) (document : Document) (sent : Entries Value)
    (wanted : Option String) : Course σ Response :=
  if !served.types.isServable then throw (.request .unservable)
  else if !document.isValid served.types then pure (.rejected .invalid)
  else if document.isOverlong then pure (.rejected .overlong)
  else
    match served.variablesFor? document sent wanted with
    | none => pure (.rejected .invalid)
    | some bindings =>
        tryCatch (do
            let operation ← settled (served.surface.read document bindings wanted)
            served.run executor operation)
          rejection

/-- Responds to the text of a request. -/
def respondToText {σ : Type} (executor : Executor σ) (text : String) (sent : Entries Value)
    (wanted : Option String) : Course σ Response :=
  match Document.ofText text with
  | .ok document => served.respond executor document sent wanted
  | .error _ => pure (.rejected .unparsed)

end Served

end GraphGateway.Service
