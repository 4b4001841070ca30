import Mathlib.Data.List.Chain
import GraphGateway.Json.Printer
import GraphGateway.Json.Reader
import GraphGateway.Proofs.Bytes.Decoding

/-!
JSON strings are read back as they were written, but for one thing: where a text holds the two
halves of a character side by side, the character itself is read.
-/
namespace GraphGateway.Json

open Bytes (IsAscii)
open Text (carried? firstCarrier hexadecimal isHighSurrogate isLowSurrogate surrogatePair unitChar)

theorem padLeft_toList (width : Nat) (text : List Char) :
    (Decimal.padLeft width (String.ofList text)).toList =
      List.replicate (width - text.length) '0' ++ text := by
  unfold Decimal.padLeft
  rw [String.toList_append, String.toList_ofList, String.toList_ofList, String.length_ofList]

/-- The four hexadecimal digits of a unit. -/
def unitDigits (unit : Nat) : List Char :=
  [(unit / 4096).digitChar, (unit / 256 % 16).digitChar, (unit / 16 % 16).digitChar,
    (unit % 16).digitChar]

theorem hexadecimal_toList {unit : Nat} (small : unit < 0x10000) :
    (hexadecimal 4 unit).toList = unitDigits unit := by
  have step : ∀ number, 16 ≤ number →
      Nat.toDigits 16 number = Nat.toDigits 16 (number / 16) ++ [(number % 16).digitChar] :=
    fun number large => Nat.toDigits_of_base_le (by decide) large
  have last : ∀ number, number < 16 → Nat.toDigits 16 number = [number.digitChar] :=
    fun number tiny => Nat.toDigits_of_lt_base tiny
  have zero : Nat.digitChar 0 = '0' := rfl
  unfold hexadecimal
  rw [padLeft_toList]
  unfold unitDigits
  by_cases one : unit < 16
  · rw [last unit one, show unit / 4096 = 0 by omega, show unit / 256 % 16 = 0 by omega,
      show unit / 16 % 16 = 0 by omega, show unit % 16 = unit by omega, zero]
    rfl
  · rw [step unit (by omega)]
    by_cases two : unit / 16 < 16
    · rw [last _ two, show unit / 4096 = 0 by omega, show unit / 256 % 16 = 0 by omega,
        show unit / 16 % 16 = unit / 16 by omega, zero]
      rfl
    · rw [step (unit / 16) (by omega), show unit / 16 / 16 = unit / 256 by omega]
      by_cases three : unit / 256 < 16
      · rw [last _ three, show unit / 4096 = 0 by omega,
          show unit / 256 % 16 = unit / 256 by omega, zero]
        rfl
      · rw [step (unit / 256) (by omega), show unit / 256 / 16 = unit / 4096 by omega,
          last _ (by omega)]
        rfl

theorem hexDigit?_digitChar : ∀ number < 16, hexDigit? number.digitChar = some number := by
  decide

theorem digitChar_ascii : ∀ number < 16, number.digitChar.toNat < 0x80 := by
  decide

theorem hexUnit?_digits {unit : Nat} (small : unit < 0x10000) :
    hexUnit? (unit / 4096).digitChar (unit / 256 % 16).digitChar (unit / 16 % 16).digitChar
      (unit % 16).digitChar = some unit := by
  unfold hexUnit?
  rw [hexDigit?_digitChar _ (by omega), hexDigit?_digitChar _ (by omega),
    hexDigit?_digitChar _ (by omega), hexDigit?_digitChar _ (by omega)]
  change some (unit / 4096 * 4096 + unit / 256 % 16 * 256 + unit / 16 % 16 * 16 + unit % 16) = _
  congr 1
  omega

theorem hexEscape_eq {unit : Nat} (small : unit < 0x10000) :
    hexEscape unit = '\\' :: 'u' :: unitDigits unit := by
  unfold hexEscape
  rw [hexadecimal_toList small]

/-- The character that two characters carry the halves of. -/
def wholeOf? (first second : Char) : Option Char := do
  let high ← carried? first
  let low ← carried? second
  if isHighSurrogate high && isLowSurrogate low then some (surrogatePair high low) else none

/-- A text with the halves of a character joined where they stand side by side. -/
def joinHalves : List Char → List Char
  | [] => []
  | [c] => [c]
  | first :: second :: rest =>
      match wholeOf? first second with
      | some c => c :: joinHalves rest
      | none => first :: joinHalves (second :: rest)

theorem joinHalves_plain {text : List Char} (plain : ∀ c ∈ text, carried? c = none) :
    joinHalves text = text := by
  fun_induction joinHalves text with
  | case1 => rfl
  | case2 c => rfl
  | case3 first second rest c whole ih =>
      unfold wholeOf? at whole
      rw [plain first (List.mem_cons_self ..)] at whole
      cases whole
  | case4 first second rest apart ih =>
      rw [ih fun c member => plain c (List.mem_cons_of_mem _ member)]

theorem length_joinHalves_le (text : List Char) : (joinHalves text).length ≤ text.length := by
  fun_induction joinHalves text with
  | case1 => exact Nat.le_refl _
  | case2 c => exact Nat.le_refl _
  | case3 first second rest c whole ih => exact Nat.succ_le_succ (Nat.le_succ_of_le ih)
  | case4 first second rest apart ih => exact Nat.succ_le_succ ih

/-- A text stays as it is exactly if no half of a character stands directly before its other half. -/
theorem joinHalves_eq_iff (text : List Char) :
    joinHalves text = text ↔ text.IsChain fun first second => wholeOf? first second = none := by
  fun_induction joinHalves text with
  | case1 => simp
  | case2 c => simp
  | case3 first second rest c whole ih =>
      have shorter := length_joinHalves_le rest
      constructor
      · intro same
        have lengths := congrArg List.length same
        rw [List.length_cons, List.length_cons, List.length_cons] at lengths
        omega
      · intro chain
        rw [List.isChain_cons_cons, whole] at chain
        cases chain.1
  | case4 first second rest apart ih =>
      rw [List.cons.injEq, List.isChain_cons_cons, ih]
      simp [apart]

theorem wholeOf?_some {first second c : Char} (whole : wholeOf? first second = some c) :
    ∃ high low, carried? first = some high ∧ carried? second = some low ∧
      isHighSurrogate high = true ∧ isLowSurrogate low = true ∧ surrogatePair high low = c := by
  obtain ⟨high, carriesHigh, whole⟩ := Option.bind_eq_some_iff.mp whole
  obtain ⟨low, carriesLow, whole⟩ := Option.bind_eq_some_iff.mp whole
  rw [Option.ite_none_right_eq_some, Bool.and_eq_true] at whole
  obtain ⟨⟨isHigh, isLow⟩, same⟩ := whole
  exact ⟨high, low, carriesHigh, carriesLow, isHigh, isLow, Option.some.inj same⟩

/-- What a character that carries a surrogate tells of it. -/
theorem carried?_some {c : Char} {unit : Nat} (carries : carried? c = some unit) :
    0xD800 ≤ unit ∧ unit < 0xE000 ∧ unitChar unit = c := by
  unfold carried? at carries
  rw [Option.ite_none_right_eq_some, Bool.and_eq_true, decide_eq_true_eq, decide_eq_true_eq]
    at carries
  obtain ⟨⟨above, below⟩, same⟩ := carries
  have same := Option.some.inj same
  refine ⟨by omega, by omega, ?_⟩
  have code : firstCarrier + (unit - 0xD800) = c.toNat := by omega
  have inside : 0xD800 ≤ unit ∧ unit < 0xE000 := by omega
  unfold unitChar
  rw [if_pos (by simpa using inside), code, Char.ofNat_toNat]

theorem encodeChar_carried {c : Char} {unit : Nat} (carries : carried? c = some unit) :
    encodeChar c = hexEscape unit := by
  obtain ⟨low, high, same⟩ := carried?_some carries
  unfold encodeChar
  split
  · cases carries
  · cases carries
  · cases carries
  · cases carries
  · cases carries
  · cases carries
  · cases carries
  · rw [carries, Option.getD_some]
    have unprinted : ¬(0x20 ≤ unit ∧ unit < 0x7F) := by omega
    have small : unit < 0x10000 := by omega
    dsimp only
    rw [if_neg (by simpa using unprinted), if_pos small]

section

variable (rest : List Char)

theorem readString_quote : readString ('"' :: rest) = some ([], rest) :=
  rfl

theorem readString_plain {c : Char} (unquoted : c ≠ '"') (unescaped : c ≠ '\\')
    (printable : 0x20 ≤ c.toNat) :
    readString (c :: rest) = consFirst c (readString rest) := by
  have shown : ¬c.toNat < 0x20 := by omega
  rw [readString.eq_def]
  simp [unescaped, shown]

/-- A text that does not start with the escape of a second half. -/
def StartsApart (text : List Char) : Prop :=
  ∀ a b c d rest, text = '\\' :: 'u' :: a :: b :: c :: d :: rest →
    ∃ unit, hexUnit? a b c d = some unit ∧ isLowSurrogate unit = false

theorem readString_hexEscape {unit : Nat} (small : unit < 0x10000)
    (alone : isHighSurrogate unit = true → StartsApart rest) :
    readString (hexEscape unit ++ rest) = consFirst (unitChar unit) (readString rest) := by
  rw [hexEscape_eq small, unitDigits]
  dsimp only [List.cons_append, List.nil_append]
  rw [readString.eq_def]
  simp only [hexUnit?_digits small]
  split
  · next a b c d after isHigh =>
    obtain ⟨low, read, other⟩ := alone isHigh a b c d after rfl
    rw [read]
    dsimp only
    rw [other, if_neg Bool.false_ne_true]
  · rfl

theorem readString_hexPair {high low : Nat} (highSmall : high < 0x10000) (lowSmall : low < 0x10000)
    (first : isHighSurrogate high = true) (second : isLowSurrogate low = true) :
    readString (hexEscape high ++ (hexEscape low ++ rest)) =
      consFirst (surrogatePair high low) (readString rest) := by
  rw [hexEscape_eq highSmall, hexEscape_eq lowSmall, unitDigits, unitDigits]
  dsimp only [List.cons_append, List.nil_append]
  rw [readString.eq_def]
  simp [hexUnit?_digits highSmall, hexUnit?_digits lowSmall, first, second]

/-- A character above the basic plane is the one that its two surrogates stand for. -/
theorem surrogatePair_of_char {c : Char} (large : 0x10000 ≤ c.toNat) :
    surrogatePair (0xD800 + (c.toNat - 0x10000) / 0x400)
      (0xDC00 + (c.toNat - 0x10000) % 0x400) = c := by
  have code : 0x10000 + (0xD800 + (c.toNat - 0x10000) / 0x400 - 0xD800) * 0x400 +
      (0xDC00 + (c.toNat - 0x10000) % 0x400 - 0xDC00) = c.toNat := by omega
  unfold surrogatePair
  rw [code, Char.ofNat_toNat]

theorem readString_encodeChar_plain {c : Char} (plain : carried? c = none) :
    readString (encodeChar c ++ rest) = consFirst c (readString rest) := by
  unfold encodeChar
  split
  · rfl
  · rfl
  · rfl
  · rfl
  · rfl
  · rfl
  · rfl
  · next unquoted unescaped _ _ _ _ _ =>
    -- Characters leave out the numbers of surrogates.
    have valid : c.toNat.isValidChar := c.valid
    unfold Nat.isValidChar at valid
    rw [plain, Option.getD_none]
    dsimp only
    split
    · next shown =>
      rw [Bool.and_eq_true, decide_eq_true_eq, decide_eq_true_eq] at shown
      exact readString_plain rest unquoted unescaped shown.1
    · split
      · next small =>
        have apart : ¬(0xD800 ≤ c.toNat ∧ c.toNat < 0xE000) := by omega
        have alone : isHighSurrogate c.toNat = false := by
          simp only [isHighSurrogate, Bool.and_eq_false_iff, decide_eq_false_iff_not]
          omega
        have same : unitChar c.toNat = c := by
          unfold unitChar
          rw [if_neg (by simpa using apart), Char.ofNat_toNat]
        have notHigh : isHighSurrogate c.toNat ≠ true := alone ▸ Bool.false_ne_true
        rw [readString_hexEscape rest small fun isHigh => absurd isHigh notHigh, same]
      · next large =>
        rw [List.append_assoc, readString_hexPair rest (by omega) (by omega)
          (by simp only [isHighSurrogate, Bool.and_eq_true, decide_eq_true_eq]; omega)
          (by simp only [isLowSurrogate, Bool.and_eq_true, decide_eq_true_eq]; omega),
          surrogatePair_of_char (by omega)]

/-- A character is read back as it was written, unless it carries the first half of one whose second
half follows. -/
theorem readString_encodeChar {c : Char} (apart : ∀ unit, carried? c = some unit →
      isHighSurrogate unit = true → StartsApart rest) :
    readString (encodeChar c ++ rest) = consFirst c (readString rest) := by
  cases carries : carried? c with
  | none => exact readString_encodeChar_plain rest carries
  | some unit =>
      obtain ⟨low, high, same⟩ := carried?_some carries
      rw [encodeChar_carried carries, readString_hexEscape rest (by omega) (apart unit carries), same]

end

theorem startsApart_quote (rest : List Char) : StartsApart ('"' :: rest) := by
  intro a b c d after same
  cases (List.cons.inj same).1

theorem startsApart_hexEscape {unit : Nat} (small : unit < 0x10000)
    (other : isLowSurrogate unit = false) (rest : List Char) :
    StartsApart (hexEscape unit ++ rest) := by
  intro a b c d after same
  rw [hexEscape_eq small, unitDigits] at same
  injection same with _ same
  injection same with _ same
  injection same with first same
  injection same with second same
  injection same with third same
  injection same with fourth same
  subst first second third fourth
  exact ⟨unit, hexUnit?_digits small, other⟩

/-- What is written of a character starts with a second half only if the character carries one. -/
theorem startsApart_encodeChar {c : Char} (rest : List Char)
    (other : ∀ unit, carried? c = some unit → isLowSurrogate unit = false) :
    StartsApart (encodeChar c ++ rest) := by
  cases carries : carried? c with
  | some unit =>
      obtain ⟨low, high, -⟩ := carried?_some carries
      rw [encodeChar_carried carries]
      exact startsApart_hexEscape (by omega) (other unit carries) rest
  | none =>
      unfold encodeChar
      split
      · exact fun _ _ _ _ _ same => by simp at same
      · exact fun _ _ _ _ _ same => by simp at same
      · exact fun _ _ _ _ _ same => by simp at same
      · exact fun _ _ _ _ _ same => by simp at same
      · exact fun _ _ _ _ _ same => by simp at same
      · exact fun _ _ _ _ _ same => by simp at same
      · exact fun _ _ _ _ _ same => by simp at same
      · next unescaped _ _ _ _ _ =>
        have valid : c.toNat.isValidChar := c.valid
        unfold Nat.isValidChar at valid
        rw [carries, Option.getD_none]
        dsimp only
        split
        · exact fun _ _ _ _ _ same => absurd (List.cons.inj same).1 unescaped
        · split
          · next small =>
            refine startsApart_hexEscape small ?_ rest
            simp only [isLowSurrogate, Bool.and_eq_false_iff, decide_eq_false_iff_not]
            omega
          · rw [List.append_assoc]
            refine startsApart_hexEscape (by omega) ?_ _
            simp only [isLowSurrogate, Bool.and_eq_false_iff, decide_eq_false_iff_not]
            omega

/-- A text is read back as it was written, up to its closing quote, but for halves that stand side
by side. -/
theorem readString_encodeChars (text rest : List Char) :
    readString (encodeChars text ++ '"' :: rest) = some (joinHalves text, rest) := by
  fun_induction joinHalves text with
  | case1 =>
      rw [encodeChars, List.nil_append, readString_quote]
  | case2 c =>
      rw [encodeChars, encodeChars, List.append_nil,
        readString_encodeChar _ fun _ _ _ => startsApart_quote rest, readString_quote]
      rfl
  | case3 first second others c whole ih =>
      obtain ⟨high, low, carriesHigh, carriesLow, isHigh, isLow, rfl⟩ := wholeOf?_some whole
      obtain ⟨-, highBound, -⟩ := carried?_some carriesHigh
      obtain ⟨-, lowBound, -⟩ := carried?_some carriesLow
      rw [encodeChars, encodeChars, encodeChar_carried carriesHigh, encodeChar_carried carriesLow,
        List.append_assoc, List.append_assoc,
        readString_hexPair _ (by omega) (by omega) isHigh isLow, ih]
      rfl
  | case4 first second others apart ih =>
      rw [encodeChars, List.append_assoc, readString_encodeChar, ih]
      · rfl
      · intro high carriesHigh isHigh
        rw [encodeChars, List.append_assoc]
        refine startsApart_encodeChar _ fun low carriesLow => ?_
        cases isLow : isLowSurrogate low with
        | false => rfl
        | true =>
            simp [wholeOf?, carriesHigh, carriesLow, isHigh, isLow] at apart

/-- Two halves side by side are written as the character itself is. -/
example : encodeChars [unitChar 0xD83D, unitChar 0xDE00] = encodeChars ['😀'] := by decide

theorem hexEscape_ascii {unit : Nat} (small : unit < 0x10000) : IsAscii (hexEscape unit) := by
  rw [hexEscape_eq small]
  intro c member
  rcases List.mem_cons.mp member with rfl | member
  · decide
  · rcases List.mem_cons.mp member with rfl | member
    · decide
    · simp only [unitDigits, List.mem_cons, List.not_mem_nil, or_false] at member
      rcases member with rfl | rfl | rfl | rfl <;> exact digitChar_ascii _ (by omega)

/-- Whatever a text holds, what is written of it is ASCII. -/
theorem encodeChar_ascii (c : Char) : IsAscii (encodeChar c) := by
  cases carries : carried? c with
  | some unit =>
      obtain ⟨low, high, -⟩ := carried?_some carries
      rw [encodeChar_carried carries]
      exact hexEscape_ascii (by omega)
  | none =>
      unfold encodeChar
      split
      · decide
      · decide
      · decide
      · decide
      · decide
      · decide
      · decide
      · have valid : c.toNat.isValidChar := c.valid
        unfold Nat.isValidChar at valid
        rw [carries, Option.getD_none]
        dsimp only
        split
        · next shown =>
          rw [Bool.and_eq_true, decide_eq_true_eq, decide_eq_true_eq] at shown
          exact .cons (by omega) .nil
        · split
          · next small => exact hexEscape_ascii small
          · exact (hexEscape_ascii (by omega)).append (hexEscape_ascii (by omega))

theorem encodeChars_ascii (text : List Char) : IsAscii (encodeChars text) := by
  induction text with
  | nil => exact .nil
  | cons c others ih =>
      rw [encodeChars]
      exact (encodeChar_ascii c).append ih

end GraphGateway.Json
