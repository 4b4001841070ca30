import GraphGateway.Bytes.Base64
import GraphGateway.Bytes.Utf

/-!
Text in ASCII has a byte for each character, and is read back from its bytes as it was written.
-/
namespace GraphGateway.Bytes

/-- A text of ASCII characters. -/
def IsAscii (text : List Char) : Prop :=
  ∀ c ∈ text, c.toNat < 0x80

instance (text : List Char) : Decidable (IsAscii text) :=
  List.decidableBAll (fun c : Char => c.toNat < 0x80) text

theorem IsAscii.nil : IsAscii [] := fun _ member => absurd member List.not_mem_nil

theorem IsAscii.cons {c : Char} {text : List Char} (small : c.toNat < 0x80) (ascii : IsAscii text) :
    IsAscii (c :: text) := by
  intro other member
  rcases List.mem_cons.mp member with rfl | later
  · exact small
  · exact ascii other later

theorem IsAscii.append {text others : List Char} (ascii : IsAscii text) (later : IsAscii others) :
    IsAscii (text ++ others) := by
  intro c member
  rcases List.mem_append.mp member with here | there
  · exact ascii c here
  · exact later c there

/-- The byte of an ASCII character. -/
def asciiByte (c : Char) : UInt8 := UInt8.ofNat c.toNat

theorem asciiByte_toNat {c : Char} (small : c.toNat < 0x80) : (asciiByte c).toNat = c.toNat := by
  unfold asciiByte
  rw [UInt8.toNat_ofNat']
  omega

theorem utf8EncodeChar_ascii {c : Char} (small : c.toNat < 0x80) :
    String.utf8EncodeChar c = [asciiByte c] := by
  have single : c.utf8Size = 1 := by
    rw [Char.utf8Size_eq_one_iff]
    have bound : c.val.toNat < 0x80 := small
    rw [UInt32.le_iff_toNat_le]
    exact Nat.le_of_lt_succ bound
  rw [String.utf8EncodeChar_eq_singleton single]
  rfl

theorem ofString_ascii {text : List Char} (ascii : IsAscii text) :
    ofString (String.ofList text) = text.map asciiByte := by
  unfold ofString
  change (String.ofList text).toByteArray.data.toList = _
  rw [String.toByteArray_ofList]
  induction text with
  | nil => rfl
  | cons c rest ih =>
      rw [List.utf8Encode_cons, List.utf8Encode_singleton,
        utf8EncodeChar_ascii (ascii c (List.mem_cons_self ..)), List.map_cons,
        ← ih fun other member => ascii other (List.mem_cons_of_mem _ member)]
      simp

theorem decodeUtf8?_single {byte : UInt8} (small : byte < 0x80) (rest : List UInt8) :
    decodeUtf8? (byte :: rest) = (decodeUtf8? rest).map (Char.ofNat byte.toNat :: ·) := by
  -- An equation of the decoder would split all branches of longer characters, which takes long.
  delta decodeUtf8?
  dsimp only
  exact if_pos small

theorem decodeUtf8?_ascii {text : List Char} (ascii : IsAscii text) :
    decodeUtf8? (text.map asciiByte) = some text := by
  induction text with
  | nil => rfl
  | cons c rest ih =>
      have small := ascii c (List.mem_cons_self ..)
      have byte : asciiByte c < 0x80 := by
        rw [UInt8.lt_iff_toNat_lt, asciiByte_toNat small]
        exact small
      rw [List.map_cons, decodeUtf8?_single byte,
        ih fun other member => ascii other (List.mem_cons_of_mem _ member), asciiByte_toNat small,
        Char.ofNat_toNat]
      rfl

theorem isPrefixOf_marked {mark first : UInt8} {marks rest : List UInt8} (apart : mark ≠ first) :
    (mark :: marks).isPrefixOf (first :: rest) = false := by
  rw [List.isPrefixOf_cons_cons, beq_eq_false_iff_ne.mpr apart]
  rfl

/-- Four ASCII characters, of which the first two are not zero, show that the text is in UTF-8. -/
theorem decodeJson?_ascii {first second third fourth : Char} {rest : List Char}
    (ascii : IsAscii (first :: second :: third :: fourth :: rest)) (some_ : first.toNat ≠ 0)
    (other : second.toNat ≠ 0) :
    decodeJson? ((first :: second :: third :: fourth :: rest).map asciiByte) =
      some (first :: second :: third :: fourth :: rest) := by
  have byte : ∀ c ∈ [first, second], (asciiByte c).toNat = c.toNat ∧ c.toNat < 0x80 := by
    intro c member
    have small := ascii c (List.mem_append_left (third :: fourth :: rest) member)
    exact ⟨asciiByte_toNat small, small⟩
  have nonzero : ∀ c ∈ [first, second], c.toNat ≠ 0 → asciiByte c ≠ 0 := by
    intro c member holds zero
    exact holds ((byte c member).1.symm.trans (congrArg UInt8.toNat zero))
  have firstSome := nonzero first (by simp) some_
  have secondSome := nonzero second (by simp) other
  -- A byte order mark starts with a zero or a byte from 0x80 on, so this text has none.
  have unmarked : ∀ mark : UInt8, 0x80 ≤ mark.toNat → mark ≠ asciiByte first := by
    rintro mark large rfl
    have small := byte first (by simp)
    omega
  have read := decodeUtf8?_ascii ascii
  simp only [List.map_cons] at read ⊢
  unfold decodeJson?
  simp only [isPrefixOf_marked firstSome.symm, isPrefixOf_marked (unmarked 0xFF (by decide)),
    isPrefixOf_marked (unmarked 0xFE (by decide)), isPrefixOf_marked (unmarked 0xEF (by decide)),
    if_neg firstSome, if_neg secondSome, Bool.false_eq_true, if_false]
  exact read

end GraphGateway.Bytes

/-!
Base64 is read back as it was written.  Every digit has its number back, and the padding that was
left out completes the last group.
-/
namespace GraphGateway.Bytes.Base64

theorem digitValue?_digit : ∀ number < 64, digitValue? (digit number) = some number := by
  decide

theorem digit_ne_pad : ∀ number < 64, digit number ≠ '=' := by
  decide

theorem digit_ascii : ∀ number < 64, (digit number).toNat < 0x80 := by
  decide

/-- The characters of base64 that may stand in a URL as they are. -/
def isUrlSafe (c : Char) : Bool :=
  c.isAlphanum || c = '-' || c = '_'

theorem digit_isUrlSafe : ∀ number < 64, isUrlSafe (digit number) = true := by
  decide

section

variable {number : Nat} (small : number < 64) (carry pads : Nat) (rest : List Char)

include small

theorem decodeFrom_first :
    decodeFrom 0 carry pads (digit number :: rest) = decodeFrom 1 number 0 rest := by
  rw [decodeFrom, if_neg (digit_ne_pad number small), digitValue?_digit number small]
  rfl

theorem decodeFrom_second :
    decodeFrom 1 carry pads (digit number :: rest) =
      (decodeFrom 2 (number % 16) 0 rest).map (UInt8.ofNat (carry * 4 + number / 16) :: ·) := by
  rw [decodeFrom, if_neg (digit_ne_pad number small), digitValue?_digit number small]
  rfl

theorem decodeFrom_third :
    decodeFrom 2 carry pads (digit number :: rest) =
      (decodeFrom 3 (number % 4) 0 rest).map (UInt8.ofNat (carry * 16 + number / 4) :: ·) := by
  rw [decodeFrom, if_neg (digit_ne_pad number small), digitValue?_digit number small]
  rfl

theorem decodeFrom_fourth :
    decodeFrom 3 carry pads (digit number :: rest) =
      (decodeFrom 0 0 0 rest).map (UInt8.ofNat (carry * 64 + number) :: ·) := by
  rw [decodeFrom, if_neg (digit_ne_pad number small), digitValue?_digit number small]
  rfl

end

/-- The padding that completes the last group of a text. -/
def padding (length : Nat) : List Char :=
  List.replicate ((4 - length % 4) % 4) '='

/-- A byte is the number of its bits, taken together again. -/
theorem ofNat_of_eq {number : Nat} {byte : UInt8} (same : number = byte.toNat) :
    UInt8.ofNat number = byte := by
  rw [same, UInt8.ofNat_toNat]

/-- Without the padding nothing is lost: the length tells how much of it there was. -/
theorem decode?_encode (bytes : List UInt8) :
    decode? (encode bytes ++ padding (encode bytes).length) = some bytes := by
  unfold decode?
  induction bytes using encode.induct with
  | case1 => rfl
  | case2 a =>
      have bound := a.toNat_lt
      have whole : UInt8.ofNat (a.toNat / 4 * 4 + a.toNat % 4 * 16 / 16) = a :=
        ofNat_of_eq (by omega)
      rw [encode, List.cons_append, List.cons_append, decodeFrom_first (by omega),
        decodeFrom_second (by omega), whole]
      rfl
  | case3 a b =>
      have boundA := a.toNat_lt
      have boundB := b.toNat_lt
      have first : UInt8.ofNat
          (a.toNat / 4 * 4 + (a.toNat % 4 * 16 + b.toNat / 16) / 16) = a :=
        ofNat_of_eq (by omega)
      have second : UInt8.ofNat
          ((a.toNat % 4 * 16 + b.toNat / 16) % 16 * 16 + b.toNat % 16 * 4 / 4) = b :=
        ofNat_of_eq (by omega)
      rw [encode, List.cons_append, List.cons_append, List.cons_append,
        decodeFrom_first (by omega), decodeFrom_second (by omega), first,
        decodeFrom_third (by omega), second]
      rfl
  | case4 a b c rest ih =>
      have boundA := a.toNat_lt
      have boundB := b.toNat_lt
      have boundC := c.toNat_lt
      have first : UInt8.ofNat
          (a.toNat / 4 * 4 + (a.toNat % 4 * 16 + b.toNat / 16) / 16) = a :=
        ofNat_of_eq (by omega)
      have second : UInt8.ofNat
          ((a.toNat % 4 * 16 + b.toNat / 16) % 16 * 16 + (b.toNat % 16 * 4 + c.toNat / 64) / 4) = b :=
        ofNat_of_eq (by omega)
      have third : UInt8.ofNat
          ((b.toNat % 16 * 4 + c.toNat / 64) % 4 * 64 + c.toNat % 64) = c :=
        ofNat_of_eq (by omega)
      have pads : padding (encode (a :: b :: c :: rest)).length = padding (encode rest).length := by
        unfold padding
        rw [encode, List.length_cons, List.length_cons, List.length_cons, List.length_cons,
          show (encode rest).length + 1 + 1 + 1 + 1 = (encode rest).length + 4 from rfl,
          Nat.add_mod_right]
      rw [pads, encode, List.cons_append, List.cons_append, List.cons_append, List.cons_append,
        decodeFrom_first (by omega), decodeFrom_second (by omega), first,
        decodeFrom_third (by omega), second, decodeFrom_fourth (by omega), third, ih]
      rfl

/-- What is written has digits only. -/
theorem mem_encode {bytes : List UInt8} {c : Char} (member : c ∈ encode bytes) :
    ∃ number < 64, c = digit number := by
  induction bytes using encode.induct with
  | case1 => cases member
  | case2 a =>
      have bound := a.toNat_lt
      rw [encode] at member
      rcases List.mem_cons.mp member with rfl | member
      · exact ⟨_, by omega, rfl⟩
      · exact ⟨_, by omega, List.mem_singleton.mp member⟩
  | case3 a b =>
      have boundA := a.toNat_lt
      have boundB := b.toNat_lt
      rw [encode] at member
      rcases List.mem_cons.mp member with rfl | member
      · exact ⟨_, by omega, rfl⟩
      · rcases List.mem_cons.mp member with rfl | member
        · exact ⟨_, by omega, rfl⟩
        · exact ⟨_, by omega, List.mem_singleton.mp member⟩
  | case4 a b c rest ih =>
      have boundA := a.toNat_lt
      have boundB := b.toNat_lt
      have boundC := c.toNat_lt
      rw [encode] at member
      rcases List.mem_cons.mp member with rfl | member
      · exact ⟨_, by omega, rfl⟩
      · rcases List.mem_cons.mp member with rfl | member
        · exact ⟨_, by omega, rfl⟩
        · rcases List.mem_cons.mp member with rfl | member
          · exact ⟨_, by omega, rfl⟩
          · rcases List.mem_cons.mp member with rfl | member
            · exact ⟨_, by omega, rfl⟩
            · exact ih member

end GraphGateway.Bytes.Base64
