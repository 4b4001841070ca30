import GraphGateway.Proofs.Paging.Cursor
import GraphGateway.Request.Fault

/-!
Spellings of a cursor.  Base64 is read leniently, so a token has more spellings than the one that is
issued for it.  What is accepted is exactly what spells an issued token: the signature fixes the
bytes, and nothing fixes their spelling.
-/
namespace GraphGateway.Bytes.Base64

/-- A character that reading passes over. -/
def isForeign (c : Char) : Bool :=
  c != '=' && (digitValue? c).isNone

theorem decodeFrom_foreign {junk : List Char} (foreign : ∀ c ∈ junk, isForeign c = true)
    (place carry pads : Nat) (rest : List Char) :
    decodeFrom place carry pads (junk ++ rest) = decodeFrom place carry pads rest := by
  induction junk with
  | nil => rfl
  | cons c others ih =>
      have passes := foreign c (List.mem_cons_self ..)
      rw [isForeign, Bool.and_eq_true, bne_iff_ne, Option.isNone_iff_eq_none] at passes
      rw [List.cons_append, decodeFrom, if_neg passes.1, passes.2]
      exact ih fun other member => foreign other (List.mem_cons_of_mem _ member)

end GraphGateway.Bytes.Base64

namespace GraphGateway.Paging

open Bytes
open Json (IsWhole)

/-- Foreign characters in groups of four at the head of a cursor do not change what it spells. -/
theorem token?_foreign {junk : String} (foreign : ∀ c ∈ junk.toList, Base64.isForeign c = true)
    (ascii : ∀ c ∈ junk.toList, c.toNat < 0x80) (groups : junk.toList.length % 4 = 0)
    (cursor : String) : token? (junk ++ cursor) = token? cursor := by
  have plain : (junk.toList.any fun c => decide (0x80 ≤ c.toNat)) = false := by
    rw [List.any_eq_false]
    intro c member
    rw [decide_eq_true_eq, Nat.not_le]
    exact ascii c member
  have pads : Base64.padding (junk.toList ++ cursor.toList).length =
      Base64.padding cursor.toList.length := by
    unfold Base64.padding
    rw [List.length_append, Nat.add_mod, groups, Nat.zero_add, Nat.mod_mod]
  unfold token?
  rw [String.toList_append, List.any_append, plain, Bool.false_or, pads, List.append_assoc]
  unfold Base64.decode?
  rw [Base64.decodeFrom_foreign foreign]

namespace CursorCodec

variable (codec : CursorCodec)

/-- A cursor is read exactly if it spells a payload behind its signature, and the payload is read. -/
theorem readText_ok_iff {cursor : String} {wanted : Value} {position : Position} :
    codec.readText cursor wanted = .ok position ↔
      ∃ payload, payload ≠ [] ∧ token? cursor = some (codec.sign payload ++ payload) ∧
        readPayload payload wanted = .ok position := by
  constructor
  · intro read
    rw [readText_eq] at read
    split at read
    · cases read
    · split at read
      · cases read
      · next token spells =>
        split at read
        · cases read
        · next long =>
          split at read
          · next signed =>
            refine ⟨token.drop signatureBytes, ?_, ?_, read⟩
            · intro empty
              exact long (List.drop_eq_nil_iff.mp empty)
            · rw [spells, ← signed, List.take_append_drop]
          · cases read
  · rintro ⟨payload, some_, spells, read⟩
    rw [codec.readText_of_token some_ spells, read]

/-- Whatever a cursor spells, if it is a payload behind its signature, it is one that is written for
a position: nobody else can sign. -/
def IsGenuine (cursor : String) : Prop :=
  ∀ payload, token? cursor = some (codec.sign payload ++ payload) →
    ∃ issuer key, IsWhole issuer ∧ IsShort key ∧ payload = payloadOf (.text issuer) key

/-- A cursor that nobody forged is accepted exactly if it spells the same token as the cursor that is
issued for the position that it is read as. -/
theorem decode_ok_iff_spells_issued {cursor : String} (genuine : codec.IsGenuine cursor)
    (wanted : Value) (position : Position) :
    codec.decode (.text cursor) wanted = .ok position ↔
      (∃ issued, codec.encode (.int position.orderingKey) (.text position.issuer) = .ok issued ∧
        IsWhole position.issuer ∧ token? cursor = token? issued) ∧
      (wanted = .null ∨ wanted = .text position.issuer) := by
  constructor
  · intro accepted
    obtain ⟨payload, -, spells, read⟩ :=
      codec.readText_ok_iff.mp (Outcome.mapError_ok_iff.mp accepted)
    obtain ⟨issuer, key, whole, short, rfl⟩ := genuine payload spells
    rw [readPayload_payload whole short] at read
    split at read
    · next wants =>
      cases read
      refine ⟨⟨_, codec.encode_natural issuer short, whole, ?_⟩, by simpa using wants⟩
      exact spells.trans (codec.token?_sealed _).symm
    · cases read
  · rintro ⟨⟨issued, encoded, whole, same⟩, wants⟩
    obtain ⟨number, sameKey, short, rfl⟩ := codec.encode_ok_iff.mp encoded
    obtain ⟨orderingKey, issuer⟩ := position
    cases sameKey
    have spells := same.trans (codec.token?_sealed (payloadOf (.text issuer) number))
    refine Outcome.mapError_ok_iff.mpr
      (codec.readText_ok_iff.mpr ⟨_, payload_ne_nil _ short, spells, ?_⟩)
    rw [readPayload_payload whole short]
    exact if_pos (by simpa using wants)

/-- What spells a payload behind its signature spells no other. -/
theorem isGenuine_of_token {cursor issuer : String} {key : Nat} (whole : IsWhole issuer)
    (short : IsShort key) (spells : token? cursor =
      token? (codec.encodePosition ⟨key, issuer⟩)) : codec.IsGenuine cursor := by
  intro payload signed
  have token := spells.trans (codec.token?_sealed (payloadOf (.text issuer) key))
  rw [signed, Option.some.injEq] at token
  have lengths : (codec.sign payload).length =
      (codec.sign (payloadOf (.text issuer) key)).length := by
    rw [codec.sign_length, codec.sign_length]
  exact ⟨issuer, key, whole, short, (List.append_inj token lengths).2⟩

theorem token?_exclaimed (cursor : String) : token? ("!!!!" ++ cursor) = token? cursor := by
  have marks : ∀ c ∈ "!!!!".toList, c = '!' :=
    fun c member => List.eq_of_mem_replicate (n := 4) member
  refine token?_foreign ?_ ?_ rfl cursor
  · intro c member
    rw [marks c member]
    rfl
  · intro c member
    rw [marks c member]
    decide

theorem exclaimed_ne (cursor : String) : "!!!!" ++ cursor ≠ cursor := by
  intro same
  have lengths := congrArg String.length same
  rw [String.length_append] at lengths
  have four : "!!!!".length = 4 := rfl
  omega

/-- Every position has a second cursor that is accepted, which nobody issues. -/
theorem decode_exclaimed {issuer : String} {key : Nat} (whole : IsWhole issuer)
    (short : IsShort key) :
    codec.decode (.text ("!!!!" ++ codec.encodePosition ⟨key, issuer⟩)) (.text issuer) =
      .ok ⟨key, issuer⟩ := by
  refine Outcome.mapError_ok_iff.mpr (codec.readText_ok_iff.mpr
    ⟨_, payload_ne_nil _ short, (token?_exclaimed _).trans (codec.token?_sealed _), ?_⟩)
  rw [readPayload_payload whole short]
  exact if_pos (by simp)

/-- A codec, and the cursor that it issues for the edge with number forty-two. -/
def actorsCodec : CursorCodec := ofSecret (ofString "test-secret")

def actorsCursor : String := actorsCodec.encodePosition ⟨(42 : Nat), "Movie.actors"⟩

theorem actors_whole : IsWhole "Movie.actors" := by decide +kernel

theorem actors_short : IsShort 42 := isShort_of_lt (by decide)

theorem actors_genuine : actorsCodec.IsGenuine ("!!!!" ++ actorsCursor) :=
  actorsCodec.isGenuine_of_token actors_whole actors_short (token?_exclaimed actorsCursor)

theorem decode_ok_iff_spells_issued_exclaimed :
    actorsCodec.IsGenuine ("!!!!" ++ actorsCursor) ∧
      actorsCodec.decode (.text ("!!!!" ++ actorsCursor)) (.text "Movie.actors") =
        .ok ⟨42, "Movie.actors"⟩ ∧
      ∃ issued, actorsCodec.encode (.int 42) (.text "Movie.actors") = .ok issued ∧
        token? ("!!!!" ++ actorsCursor) = token? issued := by
  have accepted := actorsCodec.decode_exclaimed actors_whole actors_short
  obtain ⟨⟨issued, encoded, -, same⟩, -⟩ :=
    (actorsCodec.decode_ok_iff_spells_issued actors_genuine _ _).mp accepted
  exact ⟨actors_genuine, accepted, issued, encoded, same⟩

/-- More is accepted than what is issued. -/
theorem exists_accepted_not_issued :
    ¬ ∀ (secret : List UInt8) (cursor issuer : String) (position : Position),
      (ofSecret secret).IsGenuine cursor →
        (ofSecret secret).decode (.text cursor) (.text issuer) = .ok position →
          (ofSecret secret).encode (.int position.orderingKey) (.text issuer) = .ok cursor := by
  intro issued
  have encoded := issued (ofString "test-secret") ("!!!!" ++ actorsCursor) "Movie.actors" _
    actors_genuine (actorsCodec.decode_exclaimed actors_whole actors_short)
  obtain ⟨number, same, -, cursor⟩ := actorsCodec.encode_ok_iff.mp encoded
  cases same
  exact exclaimed_ne actorsCursor cursor.symm

end CursorCodec

end GraphGateway.Paging

/-!
Only issued positions are accepted.  As long as nobody else can sign, whatever is presented as a
cursor is either refused in the documented way or read as a position that was issued, and, where an
issuer is wanted, as one that was issued by it.  Nothing is assumed of the cursor itself: it may be
a value of any kind, or a text put together from pieces of others.
-/
namespace GraphGateway.Paging

open Json (IsWhole joined)
open Request (Failure)

/-- A position as its cursor carries it. -/
def Position.carried (position : Position) : Position :=
  { position with issuer := joined position.issuer }

theorem Position.carried_eq {position : Position} (whole : IsWhole position.issuer) :
    position.carried = position := by
  unfold Position.carried
  rw [whole.joined_eq]

/-- Whatever is no payload that nests too deep is refused as a cursor. -/
theorem ofRejection_of_flaw {rejection : CursorRejection} (finite : rejection.flaw ≠ .endless) :
    Failure.ofRejection rejection = .fault (.cursor rejection) := by
  unfold Failure.ofRejection
  split
  · next endless => exact absurd endless finite
  · rfl

namespace CursorCodec

variable (codec : CursorCodec)

/-- Cursors were written for these positions. -/
def Encoded (issued : List Position) : Prop :=
  ∀ position ∈ issued, ∃ cursor,
    codec.encode (.int position.orderingKey) (.text position.issuer) = .ok cursor

/-- A value in which nothing is forged: if it is a text that spells a payload behind its signature,
then the payload was written for one of these positions. -/
def IsUnforged (issued : List Position) (cursor : Value) : Prop :=
  ∀ content payload, cursor = .text content →
    token? content = some (codec.sign payload ++ payload) →
      ∃ position ∈ issued, payload = position.payload

variable {codec} {issued : List Position}

/-- The payload of an issued position is read as that position or refused as foreign. -/
theorem Encoded.readPayload_eq (encoded : codec.Encoded issued) {position : Position}
    (member : position ∈ issued) (wanted : Value) :
    readPayload position.payload wanted =
      if wanted.isNull || wanted.isText position.carried.issuer then .ok position.carried
      else .error (.foreign position.carried.issuer) := by
  obtain ⟨cursor, written⟩ := encoded position member
  obtain ⟨number, same, short, -⟩ := codec.encode_ok_iff.mp written
  obtain ⟨orderingKey, issuer⟩ := position
  cases same
  exact readPayload_joined issuer short wanted

/-- A text in which nothing is forged is refused before its payload is read, or its payload is that
of an issued position. -/
theorem IsUnforged.readText_eq {content : String}
    (unforged : codec.IsUnforged issued (.text content)) (wanted : Value) :
    (∃ flaw, codec.readText content wanted = .error flaw ∧ flaw ≠ .endless) ∨
      ∃ position ∈ issued, codec.readText content wanted = readPayload position.payload wanted := by
  rw [codec.readText_eq]
  split
  · exact .inl ⟨.empty, rfl, nofun⟩
  · split
    · exact .inl ⟨.notBase64, rfl, nofun⟩
    · next token spells =>
      split
      · exact .inl ⟨.truncated, rfl, nofun⟩
      · split
        · next signed =>
          have behind : token? content = some
              (codec.sign (token.drop signatureBytes) ++ token.drop signatureBytes) := by
            rw [spells, ← signed, List.take_append_drop]
          obtain ⟨position, member, same⟩ := unforged content _ rfl behind
          exact .inr ⟨position, member, by rw [same]⟩
        · exact .inl ⟨.forged, rfl, nofun⟩

/-- What is not forged does not nest too deep. -/
theorem IsUnforged.flaw_ne_endless {cursor : Value} (unforged : codec.IsUnforged issued cursor)
    (encoded : codec.Encoded issued) {wanted : Value} {rejection : CursorRejection}
    (refused : codec.decode cursor wanted = .error rejection) : rejection.flaw ≠ .endless := by
  cases cursor with
  | text content =>
      have reads : codec.decode (.text content) wanted =
        (codec.readText content wanted).mapError fun flaw => ⟨content, flaw, wanted⟩ := rfl
      rw [reads] at refused
      rcases unforged.readText_eq wanted with ⟨flaw, fails, finite⟩ | ⟨position, member, same⟩
      · rw [fails] at refused
        cases refused
        exact finite
      · rw [same, encoded.readPayload_eq member wanted] at refused
        split at refused
        · cases refused
        · cases refused
          nofun
  | _ =>
      cases refused
      nofun

/-- What spells the same token as the cursor of an issued position is not forged. -/
theorem isUnforged_of_token {content : String} {position : Position} (member : position ∈ issued)
    (spells : token? content = token? (codec.encodePosition position)) :
    codec.IsUnforged issued (.text content) := by
  rintro _ payload ⟨⟩ signed
  have token := spells.trans (codec.token?_sealed position.payload)
  rw [signed, Option.some.injEq] at token
  have lengths : (codec.sign payload).length = (codec.sign position.payload).length := by
    rw [codec.sign_length, codec.sign_length]
  exact ⟨position, member, (List.append_inj token lengths).2⟩

/-- Whatever is presented as a cursor, with nothing forged in it, is refused as a cursor or read as a
position that was issued, by the issuer that is wanted if one is.  The position is the issued one
itself, but for an issuer in which two halves of a character stand side by side. -/
theorem decode_answers_issued (encoded : codec.Encoded issued) {cursor : Value}
    (unforged : codec.IsUnforged issued cursor) (wanted : Value) :
    (∃ rejection, codec.decode cursor wanted = .error rejection ∧
        Failure.ofRejection rejection = .fault (.cursor rejection)) ∨
      ∃ position ∈ issued, codec.decode cursor wanted = .ok position.carried ∧
        (wanted = .null ∨ wanted = .text position.carried.issuer) ∧
        (IsWhole position.issuer → position.carried = position) := by
  have refused : ∀ rejection, codec.decode cursor wanted = .error rejection →
      rejection.flaw ≠ .endless → ∃ rejection, codec.decode cursor wanted = .error rejection ∧
        Failure.ofRejection rejection = .fault (.cursor rejection) :=
    fun rejection fails finite => ⟨rejection, fails, ofRejection_of_flaw finite⟩
  cases cursor with
  | text content =>
      have reads : codec.decode (.text content) wanted =
        (codec.readText content wanted).mapError fun flaw => ⟨content, flaw, wanted⟩ := rfl
      rcases unforged.readText_eq wanted with ⟨flaw, fails, finite⟩ | ⟨position, member, same⟩
      · exact .inl (refused ⟨content, flaw, wanted⟩ (by rw [reads, fails]; rfl) finite)
      · rw [encoded.readPayload_eq member wanted] at same
        by_cases wants : (wanted.isNull || wanted.isText position.carried.issuer) = true
        · rw [if_pos wants] at same
          exact .inr ⟨position, member, by rw [reads, same]; rfl, by simpa using wants,
            Position.carried_eq⟩
        · rw [if_neg wants] at same
          exact .inl (refused ⟨content, .foreign position.carried.issuer, wanted⟩
            (by rw [reads, same]; rfl) nofun)
  | _ => exact .inl (refused _ rfl nofun)

/-- A second spelling of an issued cursor is read as the position that was issued, and by no other
connection. -/
theorem decode_answers_issued_exclaimed :
    actorsCodec.Encoded [⟨42, "Movie.actors"⟩] ∧
      actorsCodec.IsUnforged [⟨42, "Movie.actors"⟩] (.text ("!!!!" ++ actorsCursor)) ∧
      actorsCodec.decode (.text ("!!!!" ++ actorsCursor)) (.text "Movie.actors") =
        .ok ⟨42, "Movie.actors"⟩ ∧
      ∃ rejection, actorsCodec.decode (.text ("!!!!" ++ actorsCursor)) (.text "Person.movies") =
        .error rejection ∧ Failure.ofRejection rejection = .fault (.cursor rejection) := by
  have encoded : actorsCodec.Encoded [⟨42, "Movie.actors"⟩] := by
    rintro position member
    rw [List.mem_singleton.mp member]
    exact ⟨_, actorsCodec.encode_natural "Movie.actors" actors_short⟩
  have unforged : actorsCodec.IsUnforged [⟨42, "Movie.actors"⟩] (.text ("!!!!" ++ actorsCursor)) :=
    isUnforged_of_token (List.mem_singleton_self _) (token?_exclaimed actorsCursor)
  have whole : (⟨42, "Movie.actors"⟩ : Position).carried = ⟨42, "Movie.actors"⟩ :=
    Position.carried_eq actors_whole
  refine ⟨encoded, unforged, actorsCodec.decode_exclaimed actors_whole actors_short, ?_⟩
  rcases decode_answers_issued encoded unforged (.text "Person.movies") with refused | accepted
  · exact refused
  · obtain ⟨position, member, -, wants, -⟩ := accepted
    rw [List.mem_singleton.mp member, whole] at wants
    simp at wants

/-- The cursor of an issuer with the two halves of a character side by side, in which nothing is forged,
is read as a position of another issuer, for which none was issued. -/
theorem exists_position_not_issued :
    actorsCodec.Encoded [⟨42, halvedName⟩] ∧ ∃ cursor,
      actorsCodec.encode (.int 42) (.text halvedName) = .ok cursor ∧
      actorsCodec.IsUnforged [⟨42, halvedName⟩] (.text cursor) ∧
      actorsCodec.decode (.text cursor) (.text "😀") = .ok ⟨42, "😀"⟩ ∧
      (⟨42, "😀"⟩ : Position) ∉ [⟨42, halvedName⟩] := by
  have written := actorsCodec.encode_natural halvedName actors_short
  have decodes := actorsCodec.decode_joined halvedName actors_short
  rw [joined_halvedName] at decodes
  refine ⟨fun position member => ?_, _, written, ?_, ?_, ?_⟩
  · rw [List.mem_singleton.mp member]
    exact ⟨_, written⟩
  · exact isUnforged_of_token (List.mem_singleton_self _) rfl
  · rw [decodes]
    exact if_pos (by simp)
  · rw [List.mem_singleton, Position.mk.injEq]
    exact fun same => halvedName_ne same.2.symm

end CursorCodec

end GraphGateway.Paging
