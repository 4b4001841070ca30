import GraphGateway.Proofs.Json.Quoted

/-!
Lists of texts and of natural numbers are read back from JSON as they were written, but for one
thing: where the two halves of a character stand side by side in a text, they are joined.  A number
ends where no digit, point or exponent follows, and behind an item there is a comma or a bracket.
-/
namespace GraphGateway.Json

open Bytes (IsAscii)

theorem natOfDigits_toDigits (number : Nat) :
    Decimal.natOfDigits (Nat.toDigits 10 number) = number := by
  have folds : Decimal.natOfDigits (Nat.toDigits 10 number) =
      Nat.ofDigitChars 10 (Nat.toDigits 10 number) 0 := by
    rw [Nat.ofDigitChars_eq_foldl]
    unfold Decimal.natOfDigits Decimal.digitOf
    congr 1
    funext sum c
    rw [Nat.mul_comm]
  rw [folds, Nat.ofDigitChars_ten_toDigits]

theorem isDigit_of_mem {number : Nat} {c : Char} (member : c ∈ Nat.toDigits 10 number) :
    c.isDigit = true :=
  Nat.isDigit_of_mem_toDigits (by decide) (by decide) member

/-- A positive number starts with another digit than zero. -/
theorem head?_toDigits {number : Nat} (positive : 0 < number) :
    ∃ first rest, Nat.toDigits 10 number = first :: rest ∧ first ≠ '0' := by
  induction number using Nat.strongRecOn with
  | _ number ih =>
      by_cases small : number < 10
      · refine ⟨number.digitChar, [], Nat.toDigits_of_lt_base small, ?_⟩
        intro zero
        rw [Nat.digitChar_eq_zero] at zero
        omega
      · obtain ⟨first, rest, head, some_⟩ := ih (number / 10) (by omega) (by omega)
        refine ⟨first, rest ++ [(number % 10).digitChar], ?_, some_⟩
        rw [Nat.toDigits_of_base_le (by decide) (by omega), head, List.cons_append]

/-- What follows an item of a list. -/
inductive Stops : List Char → Prop where
  | comma (rest : List Char) : Stops (',' :: rest)
  | bracket (rest : List Char) : Stops (']' :: rest)

section

variable {number : Nat} {rest : List Char}

theorem splitDigits_toDigits (stops : Stops rest) :
    splitDigits (Nat.toDigits 10 number ++ rest) = (Nat.toDigits 10 number, rest) := by
  unfold splitDigits
  rw [List.takeWhile_append_of_pos fun c => isDigit_of_mem,
    List.dropWhile_append_of_pos fun c => isDigit_of_mem]
  cases stops <;> simp

theorem readNumber_toDigits (short : Decimal.digitCount number ≤ Decimal.wholeDigitLimit)
    (stops : Stops rest) :
    readNumber false (Nat.toDigits 10 number ++ rest) = some (.int number, rest) := by
  have noFraction : readFraction rest = (none, rest) := by
    cases stops <;> rfl
  have noExponent : readExponent rest = (none, rest) := by
    cases stops <;> rfl
  have within : ¬(Nat.toDigits 10 number).length > Decimal.wholeDigitLimit := Nat.not_lt.mpr short
  rcases Nat.eq_zero_or_pos number with rfl | positive
  · have zero : Nat.toDigits 10 0 = ['0'] := Nat.toDigits_zero 10
    rw [zero] at within ⊢
    simp only [readNumber, List.cons_append, List.nil_append, noFraction, noExponent,
      if_neg within]
    rfl
  · obtain ⟨first, others, head, some_⟩ := head?_toDigits positive
    have whole : splitDigits (Nat.toDigits 10 number ++ rest) = _ := splitDigits_toDigits stops
    have read := natOfDigits_toDigits number
    rw [head] at whole read within ⊢
    rw [List.cons_append] at whole ⊢
    rw [List.length_cons] at within
    simp [readNumber, some_, whole, noFraction, noExponent, within, read]

end

/-- A text in which no two halves of a character stand side by side. -/
def IsWhole (text : String) : Prop := joinHalves text.toList = text.toList

instance (text : String) : Decidable (IsWhole text) :=
  inferInstanceAs (Decidable (_ = _))

/-- A text as JSON carries it: halves that stand side by side are joined. -/
def joined (text : String) : String := String.ofList (joinHalves text.toList)

theorem IsWhole.joined_eq {text : String} (whole : IsWhole text) : joined text = text := by
  unfold joined
  rw [whole, String.ofList_toList]

/-- Joining changes a text exactly if two halves of a character stand side by side in it. -/
theorem joined_eq_iff {text : String} : joined text = text ↔
    text.toList.IsChain fun first second => wholeOf? first second = none := by
  rw [← joinHalves_eq_iff]
  unfold joined
  constructor
  · intro same
    rw [← String.toList_inj, String.toList_ofList] at same
    exact same
  · exact IsWhole.joined_eq

/-- Texts and natural numbers that may be written. -/
inductive IsFlat : Value → Prop where
  | text (content : String) : IsFlat (.text content)
  | number {number : Nat} (short : Decimal.digitCount number ≤ Decimal.wholeDigitLimit) :
      IsFlat (.int number)

/-- A flat value as JSON carries it. -/
def carried : Value → Value
  | .text content => .text (joined content)
  | value => value

theorem encode_text (content : String) :
    encode (.text content) = '"' :: (encodeChars content.toList ++ ['"']) :=
  rfl

theorem encode_number (number : Nat) : encode (.int number) = Nat.toDigits 10 number :=
  Nat.toList_repr

theorem encode_list (items : List Value) :
    encode (.list items) = '[' :: (encodeItems items ++ [']']) :=
  rfl

theorem encodeItems_singleton (item : Value) : encodeItems [item] = encode item :=
  rfl

theorem encodeItems_cons (item other : Value) (more : List Value) :
    encodeItems (item :: other :: more) = encode item ++ ',' :: encodeItems (other :: more) :=
  rfl

theorem readWord_digit {first : Char} (digit : first.isDigit = true) (rest : List Char) :
    (wordValues.findSome? fun (word, value) =>
      (stripWord word (first :: rest)).map fun rest => (value, rest)) = none := by
  have apart : ∀ c : Char, c.isDigit = false → c ≠ first := by
    intro c other same
    rw [same, digit] at other
    cases other
  have n := apart 'n' rfl
  have t := apart 't' rfl
  have f := apart 'f' rfl
  have upperN := apart 'N' rfl
  have upperI := apart 'I' rfl
  have minus := apart '-' rfl
  simp [wordValues, stripWord, n, t, f, upperN, upperI, minus]

/-- An item is read back, whatever follows it in its list. -/
theorem readValue_flat {value : Value} (flat : IsFlat value) {rest : List Char}
    (stops : Stops rest) (fuel depth : Nat) :
    readValue (fuel + 1) depth (encode value ++ rest) = .ok (carried value, rest) := by
  cases flat with
  | text content =>
      have read := readString_encodeChars content.toList rest
      rw [encode_text, List.cons_append, List.append_assoc, List.singleton_append, readValue, read]
      rfl
  | number short =>
      rename_i number
      have read := readNumber_toDigits short stops
      rw [encode_number]
      cases head : Nat.toDigits 10 number with
      | nil => exact absurd head Nat.toDigits_ne_nil
      | cons first others =>
          have digit := isDigit_of_mem (head ▸ List.mem_cons_self (a := first) (l := others))
          rw [head] at read
          have plain : readPlain (first :: others ++ rest) = some (.int number, rest) := by
            unfold readPlain
            rw [List.cons_append, readWord_digit digit]
            dsimp only
            split
            · next same =>
              rw [(List.cons.inj same).1] at digit
              cases digit
            · exact read
          rw [readValue.eq_def]
          dsimp only [List.cons_append]
          split
          · next same =>
            rw [(List.cons.inj same).1] at digit
            cases digit
          · next same =>
            rw [(List.cons.inj same).1] at digit
            cases digit
          · next same =>
            rw [(List.cons.inj same).1] at digit
            cases digit
          · rw [List.cons_append] at plain
            rw [plain]
            rfl

/-- No item starts with a blank or with the end of its list. -/
theorem encode_head {value : Value} (flat : IsFlat value) :
    ∃ first rest, encode value = first :: rest ∧ isBlank first = false ∧ first ≠ ']' := by
  cases flat with
  | text content => exact ⟨'"', _, rfl, rfl, by decide⟩
  | number short =>
      rename_i number
      rw [encode_number]
      cases head : Nat.toDigits 10 number with
      | nil => exact absurd head Nat.toDigits_ne_nil
      | cons first rest =>
          have digit := isDigit_of_mem (head ▸ List.mem_cons_self (a := first) (l := rest))
          refine ⟨first, rest, rfl, ?_, ?_⟩
          · have apart : ∀ c : Char, c.isDigit = false → first ≠ c := by
              rintro c other rfl
              rw [digit] at other
              cases other
            simp [isBlank, apart ' ' rfl, apart '\t' rfl, apart '\n' rfl, apart '\r' rfl]
          · rintro rfl
            cases digit

theorem skipBlank_cons {first : Char} (shown : isBlank first = false) (rest : List Char) :
    skipBlank (first :: rest) = first :: rest := by
  unfold skipBlank
  rw [List.dropWhile_cons_of_neg (by rw [shown]; exact Bool.false_ne_true)]

/-- Items with commas between them start as the first of them does. -/
theorem encodeItems_head {value : Value} (flat : IsFlat value) (others : List Value) :
    ∃ first rest, encodeItems (value :: others) = first :: rest ∧ isBlank first = false ∧
      first ≠ ']' := by
  obtain ⟨first, rest, head, shown, open_⟩ := encode_head flat
  cases others with
  | nil => exact ⟨first, rest, head, shown, open_⟩
  | cons other more =>
      refine ⟨first, rest ++ ',' :: encodeItems (other :: more), ?_, shown, open_⟩
      rw [encodeItems_cons, head, List.cons_append]

theorem readItems_encodeItems {value : Value} {others : List Value}
    (flat : ∀ item ∈ value :: others, IsFlat item) {fuel : Nat}
    (enough : (value :: others).length < fuel) (depth : Nat) (rest : List Char) :
    readItems fuel depth (encodeItems (value :: others) ++ ']' :: rest) =
      .ok ((value :: others).map carried, rest) := by
  induction others generalizing value fuel with
  | nil =>
      obtain _ | _ | fuel := fuel
      · cases enough
      · exact absurd enough (Nat.lt_irrefl _)
      · have read := readValue_flat (flat value (List.mem_cons_self ..)) (.bracket rest) fuel depth
        rw [encodeItems_singleton, readItems, read]
        rfl
  | cons other more ih =>
      obtain _ | _ | fuel := fuel
      · cases enough
      · exact absurd enough (by simp)
      · have read := readValue_flat (flat value (List.mem_cons_self ..))
          (.comma (encodeItems (other :: more) ++ ']' :: rest)) fuel depth
        have left : ∀ item ∈ other :: more, IsFlat item :=
          fun item member => flat item (List.mem_cons_of_mem _ member)
        obtain ⟨first, tail, head, shown, -⟩ :=
          encodeItems_head (left other (List.mem_cons_self ..)) more
        have later := ih left (Nat.lt_of_succ_lt_succ enough)
        rw [encodeItems_cons, List.append_assoc, List.cons_append, readItems, read]
        rw [head, List.cons_append] at later ⊢
        change (readItems (fuel + 1) depth (skipBlank (first :: (tail ++ ']' :: rest))) >>= _) = _
        rw [skipBlank_cons shown, later]
        rfl

/-- A list is at most as long as what is written of it. -/
theorem length_le_encodeItems {items : List Value} (flat : ∀ item ∈ items, IsFlat item) :
    items.length ≤ (encodeItems items).length := by
  induction items with
  | nil => exact Nat.zero_le _
  | cons value others ih =>
      obtain ⟨first, rest, head, -⟩ := encode_head (flat value (List.mem_cons_self ..))
      cases others with
      | nil =>
          rw [encodeItems_singleton, head]
          exact Nat.succ_le_succ (Nat.zero_le _)
      | cons other more =>
          have shorter := ih fun item member => flat item (List.mem_cons_of_mem _ member)
          rw [List.length_cons] at shorter
          rw [encodeItems_cons, head, List.length_append, List.length_cons, List.length_cons,
            List.length_cons, List.length_cons]
          omega

/-- A list of texts and natural numbers is read back from its JSON text. -/
theorem readNested_encode {items : List Value} (flat : ∀ item ∈ items, IsFlat item) (depth : Nat) :
    readNested (depth + 1) (encode (.list items)) = .ok (.list (items.map carried)) := by
  unfold readNested
  rw [encode_list, skipBlank_cons rfl, List.length_cons, readValue]
  cases items with
  | nil => rfl
  | cons value others =>
      obtain ⟨first, rest, head, shown, open_⟩ :=
        encodeItems_head (flat value (List.mem_cons_self ..)) others
      have length := length_le_encodeItems flat
      have read := readItems_encodeItems flat
        (show (value :: others).length <
            2 * ((encodeItems (value :: others) ++ [']']).length + 1) by
          rw [List.length_append]
          omega) depth []
      rw [head, List.cons_append] at read ⊢
      rw [skipBlank_cons shown]
      dsimp only
      split
      · next same => exact absurd (List.cons.inj same).1 open_
      · rw [read]
        rfl

theorem encode_ascii {value : Value} (flat : IsFlat value) : IsAscii (encode value) := by
  cases flat with
  | text content =>
      rw [encode_text]
      exact .cons (by decide) ((encodeChars_ascii _).append (by decide))
  | number short =>
      rw [encode_number]
      intro c member
      have digit := isDigit_of_mem member
      rw [Char.isDigit_iff_toNat] at digit
      exact Nat.lt_of_le_of_lt digit.2 (by decide)

theorem encodeItems_ascii {items : List Value} (flat : ∀ item ∈ items, IsFlat item) :
    IsAscii (encodeItems items) := by
  induction items with
  | nil => exact .nil
  | cons value others ih =>
      have first := encode_ascii (flat value (List.mem_cons_self ..))
      have later := ih fun item member => flat item (List.mem_cons_of_mem _ member)
      cases others with
      | nil => exact first
      | cons other more =>
          rw [encodeItems_cons]
          exact first.append (.cons (by decide) later)

end GraphGateway.Json
