import GraphGateway.Bytes.Base64
import GraphGateway.Bytes.Sha256
import GraphGateway.Bytes.Utf
import GraphGateway.Json.Printer
import GraphGateway.Json.Reader

/-!
Cursors: signed tokens for a position in a connection.  A position is the ordering key of an edge
and the connection that issued it.  The token is a sixteen-byte signature followed by the position
as JSON, in base64 without padding; a token whose signature does not fit its payload is refused.
-/
namespace GraphGateway.Paging

open Bytes

structure Position where
  orderingKey : Int
  /-- The connection that the position belongs to, as `Type.field`. -/
  issuer : String
  deriving DecidableEq, Repr

def cursorVersion : Int := 1

def signatureBytes : Nat := 16

/-- Why a value is no ordering key. -/
inductive KeyFault where
  | notWhole (key : Value)
  | negative (key : Int)
  | tooLong

def KeyFault.message : KeyFault → String
  | .notWhole key => s!"Ordering key must be an integer, got {key.shown}"
  | .negative key => s!"Ordering key must be non-negative, got {key}"
  | .tooLong => "Exceeds the limit (4300 digits) for integer string conversion"

/-- Why a cursor is refused. -/
inductive CursorFlaw where
  | empty
  | notBase64
  | truncated
  | forged
  | unreadable
  | unknownVersion (version : Value)
  | foreign (issuer : String)
  /-- A payload that nests too deep to be read. -/
  | endless
  /-- A reason in words of its own. -/
  | stated (reason : String)

def CursorFlaw.reason : CursorFlaw → String
  | .empty => "empty cursor"
  | .notBase64 => "not valid base64"
  | .truncated => "truncated"
  | .forged => "signature mismatch"
  | .unreadable => "unreadable payload"
  | .unknownVersion version => s!"unsupported cursor version {version.shown}"
  | .foreign issuer => s!"issued for {issuer}"
  | .endless => "unreadable payload"
  | .stated reason => reason

/-- Signs payloads; every signature has sixteen bytes. -/
structure CursorCodec where
  sign : List UInt8 → List UInt8
  sign_length : ∀ payload, (sign payload).length = signatureBytes

/-- Signs with the keyed digest under a secret, cut to sixteen bytes. -/
def CursorCodec.ofSecret (secret : List UInt8) : CursorCodec where
  sign payload := (hmacSha256 secret payload).take signatureBytes
  sign_length payload := by simp [signatureBytes]

/-- A position as JSON: version, issuer and ordering key. -/
def payloadOf (issuer : Value) (orderingKey : Int) : List UInt8 :=
  ofString (String.ofList (Json.encode
    (.list [.int cursorVersion, issuer, .int orderingKey])))

def Position.payload (position : Position) : List UInt8 :=
  payloadOf (.text position.issuer) position.orderingKey

/-- A value that can order edges: a whole number that is not negative. -/
def orderingKey (key : Value) : Except KeyFault Int :=
  match key with
  | .int number =>
      if number < 0 then
        if Decimal.digitCount number.natAbs > Decimal.wholeDigitLimit then .error .tooLong
        else .error (.negative number)
      else if Decimal.digitCount number.natAbs > Decimal.wholeDigitLimit then .error .tooLong
      else .ok number
  | other => .error (.notWhole other)

namespace CursorCodec

variable (codec : CursorCodec)

/-- The token of a payload: its signature and the payload itself. -/
def sealed (payload : List UInt8) : String :=
  String.ofList (Base64.encode (codec.sign payload ++ payload))

def encodePosition (position : Position) : String := codec.sealed position.payload

/-- The cursor of the edge with an ordering key, issued by a connection; an issuer that is no text
is written as it is. -/
def encode (key issuer : Value) : Except KeyFault String :=
  (orderingKey key).map fun number => codec.sealed (payloadOf issuer number)

/-- The three parts of a payload: the items of a list, the keys of an object or the characters of a
text, if there are three of them. -/
def parts? : Value → Option (Value × Value × Value)
  | .list [first, second, third] => some (first, second, third)
  | .object [(first, _), (second, _), (third, _)] =>
      some (.text first, .text second, .text third)
  | .text content =>
      match content.toList with
      | [first, second, third] =>
          some (.text (String.singleton first), .text (String.singleton second),
            .text (String.singleton third))
      | _ => none
  | _ => none

/-- Whether a value equals the version written here. -/
def isCurrentVersion : Value → Bool
  | .int number => number == cursorVersion
  | .bool flag => flag
  | .float number => number == 1.0
  | _ => false

/-- How deep lists and objects may nest in a payload. -/
def payloadDepth : Nat := 986

/-- Reads a payload whose signature fits; null wants no issuer in particular. -/
def readPayload (payload : List UInt8) (wanted : Value) : Except CursorFlaw Position :=
  match decodeJson? payload with
  | none => .error .unreadable
  | some text =>
      match Json.readNested payloadDepth text with
      | .error .tooDeep => .error .endless
      | .error .malformed => .error .unreadable
      | .ok value =>
          match parts? value with
          | none => .error .unreadable
          | some (version, issuer, key) =>
              if !isCurrentVersion version then .error (.unknownVersion version)
              else
                match issuer, key with
                | .text issuer, .int number =>
                    if wanted.isNull || wanted.isText issuer then .ok ⟨number, issuer⟩
                    else .error (.foreign issuer)
                | _, _ => .error .unreadable

/-- Reads a cursor that is a text: undoes base64, checks the signature, reads the payload. -/
def readText (cursor : String) (wanted : Value) : Except CursorFlaw Position :=
  let chars := cursor.toList
  if chars.isEmpty then .error .empty
  else if chars.any fun c => 0x80 ≤ c.toNat then .error .notBase64
  else
    let padding := List.replicate ((4 - chars.length % 4) % 4) '='
    match Base64.decode? (chars ++ padding) with
    | none => .error .notBase64
    | some token =>
        if token.length ≤ signatureBytes then .error .truncated
        else
          let payload := token.drop signatureBytes
          if token.take signatureBytes = codec.sign payload then readPayload payload wanted
          else .error .forged

end CursorCodec

/-- A cursor that was refused, and the connection that it was presented to. -/
structure CursorRejection where
  cursor : String
  flaw : CursorFlaw
  expected : Value

/-- The connection is named unless it counts as nothing. -/
def CursorRejection.message (rejection : CursorRejection) : String :=
  let base := s!"Invalid cursor '{rejection.cursor}': {rejection.flaw.reason}"
  if rejection.expected.isTruthy then s!"{base} (requested by {rejection.expected.plain})"
  else base

/-- The position that a cursor carries.  Anything but a text is refused like an empty one. -/
def CursorCodec.decode (codec : CursorCodec) (cursor : Value) (wanted : Value := .null) :
    Except CursorRejection Position :=
  match cursor with
  | .text content =>
      (codec.readText content wanted).mapError fun flaw => ⟨content, flaw, wanted⟩
  | other => .error ⟨other.plain, .empty, wanted⟩

end GraphGateway.Paging
