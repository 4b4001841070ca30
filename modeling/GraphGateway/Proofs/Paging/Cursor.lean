import Mathlib.Algebra.Group.Nat.Defs
import GraphGateway.Paging.Cursor
import GraphGateway.Proofs.Bytes.Decoding
import GraphGateway.Proofs.Json.Flat
import GraphGateway.Proofs.Outcome

/-!
Cursors carry their positions.  What a connection writes into a cursor is read back under the same
signature, by that connection or by anyone who wants none in particular.  A name is read back if no
two halves of a character stand side by side in it, as in every name without surrogates.
-/
namespace GraphGateway.Paging

open Bytes (IsAscii asciiByte)
open Json (IsFlat IsWhole joined)
open Text (carried?)

/-- A name without surrogates. -/
def IsPlain (name : String) : Prop :=
  ∀ c ∈ name.toList, carried? c = none

instance (name : String) : Decidable (IsPlain name) :=
  List.decidableBAll (fun c => carried? c = none) name.toList

theorem IsPlain.isWhole {name : String} (plain : IsPlain name) : IsWhole name :=
  Json.joinHalves_plain plain

/-- A number that may be written as a whole number. -/
def IsShort (number : Nat) : Prop :=
  Decimal.digitCount number ≤ Decimal.wholeDigitLimit

/-- Numbers of sixty-four bits are short. -/
theorem isShort_of_lt {number : Nat} (small : number < 2 ^ 63) : IsShort number := by
  have digits : (Nat.toDigits 10 number).length ≤ 19 :=
    (Nat.length_toDigits_le_iff (by decide) (by decide)).mpr (Nat.lt_trans small (by decide))
  exact Nat.le_trans digits (by decide)

/-- The bytes that a cursor spells. -/
def token? (cursor : String) : Option (List UInt8) :=
  if cursor.toList.any fun c => 0x80 ≤ c.toNat then none
  else Bytes.Base64.decode? (cursor.toList ++ Bytes.Base64.padding cursor.toList.length)

section

variable {issuer : String} {key : Nat}

/-- The items of a payload. -/
def payloadItems (issuer : String) (key : Nat) : List Value :=
  [.int cursorVersion, .text issuer, .int key]

theorem payloadItems_flat (issuer : String) (short : IsShort key) :
    ∀ item ∈ payloadItems issuer key, IsFlat item := by
  intro item member
  rcases List.mem_cons.mp member with rfl | member
  · have one : Decimal.digitCount 1 ≤ Decimal.wholeDigitLimit := by decide
    exact .number one
  · rcases List.mem_cons.mp member with rfl | member
    · exact .text issuer
    · rw [List.mem_singleton.mp member]
      exact .number short

/-- The characters of a payload behind the version. -/
def payloadTail (issuer : String) (key : Nat) : List Char :=
  Json.encodeChars issuer.toList ++ ['"'] ++ ',' :: Json.encode (.int key) ++ [']']

theorem encode_payloadItems (issuer : String) (key : Nat) :
    Json.encode (.list (payloadItems issuer key)) =
      '[' :: '1' :: ',' :: '"' :: payloadTail issuer key := by
  have version : Json.encode (.int cursorVersion) = ['1'] := rfl
  simp [payloadItems, payloadTail, Json.encode_list, Json.encodeItems_cons,
    Json.encodeItems_singleton, Json.encode_text, version]

/-- The text of a payload is read from its bytes. -/
theorem decodeJson?_payload (issuer : String) (short : IsShort key) :
    Bytes.decodeJson? (payloadOf (.text issuer) key) =
      some (Json.encode (.list (payloadItems issuer key))) := by
  have items : payloadOf (.text issuer) key =
      Bytes.ofString (String.ofList (Json.encode (.list (payloadItems issuer key)))) := rfl
  have ascii : IsAscii (Json.encode (.list (payloadItems issuer key))) := by
    rw [Json.encode_list]
    exact .cons (by decide)
      ((Json.encodeItems_ascii (payloadItems_flat issuer short)).append (by decide))
  rw [items, Bytes.ofString_ascii ascii]
  rw [encode_payloadItems] at ascii ⊢
  exact Bytes.decodeJson?_ascii ascii (by decide) (by decide)

namespace CursorCodec

variable (codec : CursorCodec)

/-- A payload is read as the position that it was written for, with the issuer as JSON carries it,
unless another issuer is wanted. -/
theorem readPayload_joined (issuer : String) (short : IsShort key) (wanted : Value) :
    readPayload (payloadOf (.text issuer) key) wanted =
      if wanted.isNull || wanted.isText (joined issuer) then .ok ⟨key, joined issuer⟩
      else .error (.foreign (joined issuer)) := by
  have read := Json.readNested_encode (payloadItems_flat issuer short) 985
  have current : isCurrentVersion (.int cursorVersion) = true := rfl
  unfold readPayload
  rw [decodeJson?_payload issuer short]
  dsimp only
  rw [show payloadDepth = 985 + 1 from rfl, read]
  simp [payloadItems, Json.carried, parts?, current]

theorem readPayload_payload (whole : IsWhole issuer) (short : IsShort key) (wanted : Value) :
    readPayload (payloadOf (.text issuer) key) wanted =
      if wanted.isNull || wanted.isText issuer then .ok ⟨key, issuer⟩
      else .error (.foreign issuer) := by
  rw [readPayload_joined issuer short, whole.joined_eq]

/-- The token of a payload has digits of base64 only. -/
theorem mem_sealed {payload : List UInt8} {c : Char} (member : c ∈ (codec.sealed payload).toList) :
    ∃ number < 64, c = Bytes.Base64.digit number := by
  unfold sealed at member
  rw [String.toList_ofList] at member
  exact Bytes.Base64.mem_encode member

theorem token?_sealed (payload : List UInt8) :
    token? (codec.sealed payload) = some (codec.sign payload ++ payload) := by
  have ascii : ((codec.sealed payload).toList.any fun c => 0x80 ≤ c.toNat) = false := by
    rw [List.any_eq_false]
    intro c member
    rw [decide_eq_true_eq, Nat.not_le]
    obtain ⟨number, small, rfl⟩ := codec.mem_sealed member
    exact Bytes.Base64.digit_ascii number small
  unfold token?
  rw [ascii, if_neg Bool.false_ne_true]
  unfold sealed
  rw [String.toList_ofList]
  exact Bytes.Base64.decode?_encode _

/-- The checks that a cursor passes before its payload is read. -/
theorem readText_eq (cursor : String) (wanted : Value) :
    codec.readText cursor wanted =
      if cursor.toList.isEmpty then .error .empty
      else
        match token? cursor with
        | none => .error .notBase64
        | some token =>
            if token.length ≤ signatureBytes then .error .truncated
            else if token.take signatureBytes = codec.sign (token.drop signatureBytes) then
              readPayload (token.drop signatureBytes) wanted
            else .error .forged := by
  unfold readText token?
  dsimp only
  split
  · rfl
  · split <;> rfl

/-- A cursor that spells a payload behind its signature passes all checks up to its payload. -/
theorem readText_of_token {cursor : String} {payload : List UInt8} (some_ : payload ≠ [])
    (spells : token? cursor = some (codec.sign payload ++ payload)) (wanted : Value) :
    codec.readText cursor wanted = readPayload payload wanted := by
  have length := codec.sign_length payload
  have positive := List.length_pos_iff.mpr some_
  have filled : cursor.toList.isEmpty = false := by
    rw [List.isEmpty_eq_false_iff]
    intro empty
    have nothing : token? cursor = some [] := by
      unfold token?
      rw [empty]
      rfl
    rw [nothing, Option.some.injEq] at spells
    exact some_ (List.append_eq_nil_iff.mp spells.symm).2
  have long : ¬(codec.sign payload ++ payload).length ≤ signatureBytes := by
    rw [List.length_append, length]
    omega
  have signature : (codec.sign payload ++ payload).take signatureBytes = codec.sign payload := by
    rw [← length, List.take_left]
  have rest : (codec.sign payload ++ payload).drop signatureBytes = payload := by
    rw [← length, List.drop_left]
  rw [readText_eq, filled, spells, if_neg Bool.false_ne_true]
  dsimp only
  rw [if_neg long, signature, rest, if_pos rfl]

/-- A token that is sealed passes all checks up to its payload. -/
theorem readText_sealed {payload : List UInt8} (some_ : payload ≠ []) (wanted : Value) :
    codec.readText (codec.sealed payload) wanted = readPayload payload wanted :=
  codec.readText_of_token some_ (codec.token?_sealed payload) wanted

/-- Every short natural number is encoded. -/
theorem encode_natural (issuer : String) (short : IsShort key) :
    codec.encode (.int key) (.text issuer) = .ok (codec.encodePosition ⟨key, issuer⟩) := by
  have proper : orderingKey (.int key) = .ok (key : Int) := by
    have natural : ¬(key : Int) < 0 := by omega
    have limit : ¬Decimal.digitCount key > Decimal.wholeDigitLimit := Nat.not_lt.mpr short
    unfold orderingKey
    dsimp only
    rw [if_neg natural, Int.natAbs_natCast, if_neg limit]
  unfold encode
  rw [proper]
  rfl

theorem payload_ne_nil (issuer : String) (short : IsShort key) :
    payloadOf (.text issuer) key ≠ [] := by
  intro empty
  have read := decodeJson?_payload issuer short
  rw [empty, encode_payloadItems] at read
  cases read

/-- A cursor is read as the position that it was made for, with the issuer as JSON carries it, unless
another issuer is wanted. -/
theorem decode_joined (issuer : String) (short : IsShort key) (wanted : Value) :
    codec.decode (.text (codec.encodePosition ⟨key, issuer⟩)) wanted =
      if wanted.isNull || wanted.isText (joined issuer) then .ok ⟨key, joined issuer⟩
      else .error ⟨codec.encodePosition ⟨key, issuer⟩, .foreign (joined issuer), wanted⟩ := by
  have sealing : codec.encodePosition ⟨key, issuer⟩ =
      codec.sealed (payloadOf (.text issuer) key) := rfl
  unfold decode
  dsimp only
  rw [sealing, readText_sealed codec (payload_ne_nil issuer short),
    readPayload_joined issuer short wanted]
  split <;> rfl

/-- A cursor is read as the position that it was made for, unless another issuer is wanted. -/
theorem decode_issued (whole : IsWhole issuer) (short : IsShort key) (wanted : Value) :
    codec.decode (.text (codec.encodePosition ⟨key, issuer⟩)) wanted =
      if wanted.isNull || wanted.isText issuer then .ok ⟨key, issuer⟩
      else .error ⟨codec.encodePosition ⟨key, issuer⟩, .foreign issuer, wanted⟩ := by
  have decodes := codec.decode_joined issuer short wanted
  rwa [whole.joined_eq] at decodes

/-- A cursor is read by the connection that issued it as the position that it was made for. -/
theorem decode_encodePosition (plain : IsPlain issuer) (short : IsShort key) :
    codec.decode (.text (codec.encodePosition ⟨key, issuer⟩)) (.text issuer) =
      .ok ⟨key, issuer⟩ := by
  rw [decode_issued codec plain.isWhole short]
  exact if_pos (by simp)

end CursorCodec

end

end GraphGateway.Paging

/-!
What a cursor binds.  There is a cursor for every natural number that may be written, and for
nothing else.  It goes into a URL as it is, it is read as the position that it was made for, and it
is refused wherever another issuer is wanted.  JSON joins the two halves of a character that stand
side by side in a name; of two names that it carries alike the cursors are the same.
-/
namespace GraphGateway.Paging

open Bytes (Base64.isUrlSafe)
open Json (joined wholeOf?)

theorem orderingKey_ok_iff {key : Value} {number : Int} :
    orderingKey key = .ok number ↔ key = .int number ∧ 0 ≤ number ∧ IsShort number.natAbs := by
  cases key with
  | int given =>
      unfold orderingKey
      dsimp only
      rw [Value.int.injEq]
      constructor
      · intro accepted
        split at accepted
        · split at accepted <;> cases accepted
        · next natural =>
          split at accepted
          · cases accepted
          · next short =>
            cases accepted
            exact ⟨rfl, Int.not_lt.mp natural, Nat.not_lt.mp short⟩
      · rintro ⟨rfl, natural, short⟩
        rw [if_neg (Int.not_lt.mpr natural), if_neg (Nat.not_lt.mpr short)]
  | null => simp [orderingKey]
  | bool flag => simp [orderingKey]
  | float number => simp [orderingKey]
  | text content => simp [orderingKey]
  | list items => simp [orderingKey]
  | object entries => simp [orderingKey]

namespace CursorCodec

variable (codec : CursorCodec)

/-- A cursor is made of short natural numbers only. -/
theorem encode_ok_iff {key : Value} {issuer cursor : String} :
    codec.encode key (.text issuer) = .ok cursor ↔
      ∃ number : Nat, key = .int number ∧ IsShort number ∧
        codec.encodePosition ⟨number, issuer⟩ = cursor := by
  constructor
  · intro encoded
    obtain ⟨number, accepted, same⟩ := Outcome.map_ok_iff.mp encoded
    obtain ⟨rfl, natural, short⟩ := orderingKey_ok_iff.mp accepted
    obtain ⟨number, rfl⟩ := Int.eq_ofNat_of_zero_le natural
    exact ⟨number, rfl, short, same⟩
  · rintro ⟨number, rfl, short, rfl⟩
    exact codec.encode_natural issuer short

/-- Whoever wants no issuer in particular reads every cursor. -/
theorem decode_unbound (issuer : String) {key : Nat} (short : IsShort key) :
    codec.decode (.text (codec.encodePosition ⟨key, issuer⟩)) = .ok ⟨key, joined issuer⟩ := by
  rw [codec.decode_joined issuer short]
  exact if_pos rfl

/-- Positions that share a cursor have one key, and JSON carries their issuers alike. -/
theorem encodePosition_injective {issuer name : String} {key number : Nat} (short : IsShort key)
    (shortNumber : IsShort number)
    (same : codec.encodePosition ⟨key, issuer⟩ = codec.encodePosition ⟨number, name⟩) :
    key = number ∧ joined issuer = joined name := by
  have here := codec.decode_unbound issuer short
  rw [same, codec.decode_unbound name shortNumber, Except.ok.injEq, Position.mk.injEq] at here
  exact ⟨(Int.ofNat.inj here.1).symm, here.2.symm⟩

/-- A cursor answers the position that it was made for, to whoever wants its issuer or none in
particular, and to nobody else.  There is one for every natural number that may be written.  The issuer
comes back as JSON carries it, which is as it is unless the first half of a character stands directly
before its second half; so no two positions with such issuers share a cursor. -/
theorem cursor_binds_position (key : Value) (issuer : String) :
    ((∃ cursor, codec.encode key (.text issuer) = .ok cursor) ↔
        ∃ number : Nat, key = .int number ∧ IsShort number) ∧
      (joined issuer = issuer ↔
        issuer.toList.IsChain fun first second => wholeOf? first second = none) ∧
      ∀ cursor, codec.encode key (.text issuer) = .ok cursor →
        (∀ c ∈ cursor.toList, Base64.isUrlSafe c = true) ∧
        (∃ number : Nat, key = .int number ∧
          codec.decode (.text cursor) = .ok ⟨number, joined issuer⟩ ∧
          codec.decode (.text cursor) (.text (joined issuer)) = .ok ⟨number, joined issuer⟩) ∧
        (∀ wanted, wanted ≠ .null → wanted ≠ .text (joined issuer) →
          codec.decode (.text cursor) wanted = .error ⟨cursor, .foreign (joined issuer), wanted⟩) ∧
        ∀ another name, codec.encode another (.text name) = .ok cursor →
          another = key ∧ joined name = joined issuer := by
  refine ⟨⟨?_, ?_⟩, Json.joined_eq_iff, ?_⟩
  · rintro ⟨cursor, encoded⟩
    obtain ⟨number, same, short, -⟩ := codec.encode_ok_iff.mp encoded
    exact ⟨number, same, short⟩
  · rintro ⟨number, same, short⟩
    exact ⟨_, codec.encode_ok_iff.mpr ⟨number, same, short, rfl⟩⟩
  · intro cursor encoded
    obtain ⟨number, rfl, short, rfl⟩ := codec.encode_ok_iff.mp encoded
    have decodes := codec.decode_joined issuer short
    refine ⟨?_, ⟨number, rfl, codec.decode_unbound issuer short, ?_⟩, ?_, ?_⟩
    · intro c member
      obtain ⟨digit, small, rfl⟩ := codec.mem_sealed member
      exact Bytes.Base64.digit_isUrlSafe digit small
    · rw [decodes]
      exact if_pos (by simp)
    · intro wanted some_ other
      rw [decodes]
      exact if_neg (by simp [some_, other])
    · intro another name encodedAgain
      obtain ⟨count, rfl, shortCount, same⟩ := codec.encode_ok_iff.mp encodedAgain
      obtain ⟨rfl, alike⟩ := codec.encodePosition_injective shortCount short same
      exact ⟨rfl, alike⟩

/-- A name with a quote, a letter that is not ASCII, a character above the basic plane and the first
half of another. -/
def oddName : String := String.ofList ['"', 'ü', '😀', Text.unitChar 0xD83D]

theorem cursor_binds_position_oddName :
    ∃ cursor, (ofSecret []).encode (.int 42) (.text oddName) = .ok cursor ∧
      (ofSecret []).decode (.text cursor) = .ok ⟨42, oddName⟩ ∧
      (ofSecret []).decode (.text cursor) (.text "Movie.actors") =
        .error ⟨cursor, .foreign oddName, .text "Movie.actors"⟩ := by
  have chain : oddName.toList.IsChain fun first second => wholeOf? first second = none := by
    decide +kernel
  obtain ⟨encodes, carried, binds⟩ := cursor_binds_position (ofSecret []) (.int 42) oddName
  obtain ⟨cursor, encoded⟩ := encodes.mpr ⟨42, rfl, isShort_of_lt (by decide)⟩
  obtain ⟨-, ⟨number, same, decoded, -⟩, refused, -⟩ := binds cursor encoded
  cases same
  rw [carried.mpr chain] at decoded refused
  have apart : "Movie.actors" ≠ oddName := by decide +kernel
  exact ⟨cursor, encoded, decoded, refused _ (by simp) (by simpa using apart)⟩

/-- A name with the two halves of a character side by side. -/
def halvedName : String := String.ofList [Text.unitChar 0xD83D, Text.unitChar 0xDE00]

theorem joined_halvedName : joined halvedName = "😀" := by decide +kernel

theorem halvedName_ne : halvedName ≠ "😀" := by decide +kernel

/-- The two halves and the character itself have one cursor, which is refused where the halves are
wanted. -/
theorem exists_cursor_of_two_names :
    halvedName ≠ "😀" ∧
    ∃ cursor, (ofSecret []).encode (.int 42) (.text halvedName) = .ok cursor ∧
      (ofSecret []).encode (.int 42) (.text "😀") = .ok cursor ∧
      (ofSecret []).decode (.text cursor) = .ok ⟨42, "😀"⟩ ∧
      (ofSecret []).decode (.text cursor) (.text halvedName) =
        .error ⟨cursor, .foreign "😀", .text halvedName⟩ := by
  have short : IsShort 42 := isShort_of_lt (by decide)
  have alike : payloadOf (.text "😀") (42 : Nat) = payloadOf (.text halvedName) (42 : Nat) := by
    decide +kernel
  have same : (ofSecret []).encodePosition ⟨(42 : Nat), "😀"⟩ =
      (ofSecret []).encodePosition ⟨(42 : Nat), halvedName⟩ :=
    congrArg (ofSecret []).sealed alike
  have decodes := (ofSecret []).decode_joined halvedName short
  rw [joined_halvedName] at decodes
  refine ⟨halvedName_ne, _, (ofSecret []).encode_natural halvedName short, ?_, ?_, ?_⟩
  · exact same ▸ (ofSecret []).encode_natural "😀" short
  · rw [decodes]
    exact if_pos rfl
  · rw [decodes]
    exact if_neg (by simp [halvedName_ne])

end CursorCodec

end GraphGateway.Paging
