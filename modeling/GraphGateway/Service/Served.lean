import GraphGateway.Graphql.Reader
import GraphGateway.Request.Reading
import GraphGateway.Schema.Agreement
import GraphGateway.Schema.Augmented
import GraphGateway.Schema.Declared
import GraphGateway.Statement.Compiled

/-!
Served schemas.  A base schema is served if it can be read, has no problem, and grows into a type
system that can be built; what is made of it once serves every request.
-/
namespace GraphGateway.Service

open Graphql (Document SyntaxFault TypeSystem TypeSystemFault)
open Paging (CursorCodec)
open Schema (Declared LookupFault Model Problem)
open Settings (Features)

structure Served where
  model : Model
  types : TypeSystem
  features : Features
  codec : CursorCodec

/-- Why a base schema is not served. -/
inductive Refusal where
  | unparsed (fault : SyntaxFault)
  /-- A relationship that cannot be read. -/
  | unreadable
  | lookup (fault : LookupFault)
  | problems (problems : List Problem)
  | types (fault : TypeSystemFault)

/-- The codec of cursors under the secret of the settings; an empty secret is none, and without one
the spare key signs. -/
def codecFor (features : Features) (spareKey : List UInt8) : CursorCodec :=
  match features.cursorSecret with
  | some secret =>
      .ofSecret (if secret.text.isEmpty then spareKey else Bytes.ofString secret.text)
  | none => .ofSecret spareKey

namespace Served

/-- Grows a model without problems into a served schema. -/
def ofModel (model : Model) (features : Features) (spareKey : List UInt8) :
    Except Refusal Served := do
  let types ← (model.augmented features.relationshipProperties).mapError .problems
  types.build.mapError .types
  pure { model, types, features, codec := codecFor features spareKey }

/-- The problems of a schema as it was declared; the rules on relationship properties count only
where those are offered. -/
def problemsOf (declared : Declared) (features : Features) : Except Refusal (List Problem) :=
  if features.relationshipProperties then
    (declared.model.violations.mapError .lookup).map (declared.problems ++ ·)
  else .ok declared.problems

def ofDocument (document : Document) (features : Features) (spareKey : List UInt8) :
    Except Refusal Served :=
  match Declared.ofDocument? document with
  | none => .error .unreadable
  | some declared => do
      match ← problemsOf declared features with
      | [] => ofModel declared.model features spareKey
      | problems => throw (.problems problems)

/-- Reads a base schema and builds what serves it. -/
def ofText (text : String) (features : Features) (spareKey : List UInt8) :
    Except Refusal Served := do
  let document ← (Document.ofText text).mapError .unparsed
  ofDocument document features spareKey

/-- What requests are read against. -/
def surface (served : Served) : Request.Surface := ⟨served.model, served.types⟩

/-- What selections are planned against. -/
def basis (served : Served) : Statement.Basis := ⟨served.model, served.features, served.codec⟩

end Served

end GraphGateway.Service
