import GraphGateway.Text.Alphanumeric
import GraphGateway.Text.Character
import GraphGateway.Text.LetterCase
import Mathlib.Data.List.Basic

/-!
Kinds of characters, and what becomes of them in lower case.  A letter stays a letter, a digit a digit
and any other number a number; only the capital I with a dot gets a mark beside its letter.  None of
them is a blank.
-/
namespace GraphGateway.Text

/-- Ranges of the numbers that are no decimal digits, such as fractions, raised digits and numerals. -/
def otherNumberRanges : List (Nat × Nat) :=
  [(0xB2, 0xB3), (0xB9, 0xB9), (0xBC, 0xBE), (0x9F4, 0x9F9), (0xB72, 0xB77), (0xBF0, 0xBF2),
   (0xC78, 0xC7E), (0xD58, 0xD5E), (0xD70, 0xD78), (0xF2A, 0xF33), (0x1369, 0x137C),
   (0x16EE, 0x16F0), (0x17F0, 0x17F9), (0x19DA, 0x19DA), (0x2070, 0x2070), (0x2074, 0x2079),
   (0x2080, 0x2089), (0x2150, 0x2182), (0x2185, 0x2189), (0x2460, 0x249B), (0x24EA, 0x24FF),
   (0x2776, 0x2793), (0x2CFD, 0x2CFD), (0x3007, 0x3007), (0x3021, 0x3029), (0x3038, 0x303A),
   (0x3192, 0x3195), (0x3220, 0x3229), (0x3248, 0x324F), (0x3251, 0x325F), (0x3280, 0x3289),
   (0x32B1, 0x32BF), (0xA6E6, 0xA6EF), (0xA830, 0xA835), (0x10107, 0x10133), (0x10140, 0x10178),
   (0x1018A, 0x1018B), (0x102E1, 0x102FB), (0x10320, 0x10323), (0x10341, 0x10341),
   (0x1034A, 0x1034A), (0x103D1, 0x103D5), (0x10858, 0x1085F), (0x10879, 0x1087F),
   (0x108A7, 0x108AF), (0x108FB, 0x108FF), (0x10916, 0x1091B), (0x109BC, 0x109BD),
   (0x109C0, 0x109CF), (0x109D2, 0x109FF), (0x10A40, 0x10A48), (0x10A7D, 0x10A7E),
   (0x10A9D, 0x10A9F), (0x10AEB, 0x10AEF), (0x10B58, 0x10B5F), (0x10B78, 0x10B7F),
   (0x10BA9, 0x10BAF), (0x10CFA, 0x10CFF), (0x10E60, 0x10E7E), (0x10F1D, 0x10F26),
   (0x10F51, 0x10F54), (0x10FC5, 0x10FCB), (0x11052, 0x11065), (0x111E1, 0x111F4),
   (0x1173A, 0x1173B), (0x118EA, 0x118F2), (0x11C5A, 0x11C6C), (0x11FC0, 0x11FD4),
   (0x12400, 0x1246E), (0x16B5B, 0x16B61), (0x16E80, 0x16E96), (0x1D2E0, 0x1D2F3),
   (0x1D360, 0x1D378), (0x1E8C7, 0x1E8CF), (0x1EC71, 0x1ECAB), (0x1ECAD, 0x1ECAF),
   (0x1ECB1, 0x1ECB4), (0x1ED01, 0x1ED2D), (0x1ED2F, 0x1ED3D), (0x1F100, 0x1F10C)]

inductive Kind where
  | letter
  | digit
  | number
  | other
  deriving DecidableEq, Repr

def digitRanges : List (Nat × Nat) :=
  zeroDigits.map fun first => (first, first + 9)

/-- The kind of a character among the letters and numbers of all scripts. -/
def kindOf (c : Char) : Kind :=
  if isAlphanumeric c then
    if c.inRanges digitRanges then .digit
    else if c.inRanges otherNumberRanges then .number
    else .letter
  else .other

theorem kindOf_eq_other_iff {c : Char} : kindOf c = .other ↔ isAlphanumeric c = false := by
  unfold kindOf
  cases isAlphanumeric c with
  | false => exact ⟨fun _ => rfl, fun _ => rfl⟩
  | true =>
      constructor
      · rw [if_pos rfl]
        split
        · exact Kind.noConfusion
        · split <;> exact Kind.noConfusion
      · exact fun word => Bool.noConfusion word

section Ascii

variable {c : Char}

theorem isUpper_iff_toNat : c.isUpper = true ↔ 0x41 ≤ c.toNat ∧ c.toNat ≤ 0x5A :=
  decide_eq_true_iff

theorem isLower_iff_toNat : c.isLower = true ↔ 0x61 ≤ c.toNat ∧ c.toNat ≤ 0x7A := by
  rw [← decide_eq_true_iff (p := 0x61 ≤ c.toNat), ← decide_eq_true_iff (p := c.toNat ≤ 0x7A)]
  exact Bool.and_eq_true_iff

theorem isAlpha_iff_toNat : c.isAlpha = true ↔
    (0x41 ≤ c.toNat ∧ c.toNat ≤ 0x5A) ∨ (0x61 ≤ c.toNat ∧ c.toNat ≤ 0x7A) := by
  rw [← isUpper_iff_toNat, ← isLower_iff_toNat]
  exact Bool.or_eq_true_iff

theorem isAlphanum_iff_toNat : c.isAlphanum = true ↔
    ((0x41 ≤ c.toNat ∧ c.toNat ≤ 0x5A) ∨ (0x61 ≤ c.toNat ∧ c.toNat ≤ 0x7A)) ∨
      (0x30 ≤ c.toNat ∧ c.toNat ≤ 0x39) := by
  rw [← isAlpha_iff_toNat]
  exact Bool.or_eq_true_iff.trans (or_congr_right Char.isDigit_iff_toNat)

end Ascii

/-- Whether one of the ranges holds all code points from `low` to `high`. -/
def holdAll (ranges : List (Nat × Nat)) (low high : Nat) : Bool :=
  ranges.any fun range => range.1.ble low && high.ble range.2

/-- Whether none of the ranges holds any code point from `low` to `high`. -/
def holdNone (ranges : List (Nat × Nat)) (low high : Nat) : Bool :=
  ranges.all fun range => high.blt range.1 || range.2.blt low

section

variable {ranges : List (Nat × Nat)} {low high : Nat} {c d : Char}

theorem inRanges_of_holdAll (holds : holdAll ranges low high = true) (above : low ≤ c.toNat)
    (below : c.toNat ≤ high) : c.inRanges ranges = true := by
  obtain ⟨range, member, bounds⟩ := List.any_eq_true.mp holds
  simp only [Bool.and_eq_true, Nat.ble_eq] at bounds
  exact (c.inRanges_iff ranges).mpr
    ⟨range, member, Nat.le_trans bounds.1 above, Nat.le_trans below bounds.2⟩

theorem inRanges_of_holdNone (holds : holdNone ranges low high = true) (above : low ≤ c.toNat)
    (below : c.toNat ≤ high) : c.inRanges ranges = false := by
  rw [Bool.eq_false_iff]
  intro inside
  obtain ⟨range, member, bounds⟩ := (c.inRanges_iff ranges).mp inside
  have apart := List.all_eq_true.mp holds range member
  simp only [Bool.or_eq_true, Nat.blt_eq] at apart
  omega

/-- Ranges of the letters and numbers, those of ASCII among them. -/
def wordRanges : List (Nat × Nat) :=
  (0x30, 0x39) :: (0x41, 0x5A) :: (0x61, 0x7A) :: alphanumericRanges

theorem isAlphanumeric_eq (c : Char) : isAlphanumeric c = c.inRanges wordRanges := by
  have basic : c.isAlphanum = c.inRanges [(0x30, 0x39), (0x41, 0x5A), (0x61, 0x7A)] := by
    rw [Bool.eq_iff_iff, c.inRanges_iff, isAlphanum_iff_toNat]
    simp
    omega
  unfold isAlphanumeric
  rw [basic]
  exact List.any_append.symm

/-- Ranges between the numbers of all scripts that hold the letters with two cases. -/
def numberFreeRanges : List (Nat × Nat) :=
  [(0x3A, 0xB1), (0xBF, 0x65F), (0x109A, 0x1368), (0x137D, 0x16ED), (0x1C5A, 0x206F),
   (0x208A, 0x214F), (0x2183, 0x2184), (0x2794, 0x2CFC), (0x2CFE, 0x3006), (0xA62A, 0xA6E5),
   (0xA6F0, 0xA82F), (0xAA5A, 0xABEF), (0xFF1A, 0x10106), (0x103D6, 0x1049F), (0x104AA, 0x10857),
   (0x10BB0, 0x10CF9), (0x1173C, 0x118DF), (0x16B62, 0x16E7F), (0x1E8D0, 0x1E94F)]

/-- The range of the numerals with two cases. -/
def numeralRanges : List (Nat × Nat) :=
  [(0x2160, 0x2182)]

theorem kindOf_of_numberFree (word : isAlphanumeric c = true)
    (inside : c.inRanges numberFreeRanges = true) : kindOf c = .letter := by
  have apart : numberFreeRanges.all (fun range =>
      holdNone digitRanges range.1 range.2 && holdNone otherNumberRanges range.1 range.2) = true := by
    decide +kernel
  obtain ⟨range, member, above, below⟩ := (c.inRanges_iff _).mp inside
  obtain ⟨noDigit, noNumber⟩ := Bool.and_eq_true_iff.mp (List.all_eq_true.mp apart range member)
  unfold kindOf
  rw [word, inRanges_of_holdNone noDigit above below, inRanges_of_holdNone noNumber above below]
  rfl

theorem kindOf_of_numeral (word : isAlphanumeric c = true)
    (inside : c.inRanges numeralRanges = true) : kindOf c = .number := by
  have apart : numeralRanges.all (fun range =>
      holdNone digitRanges range.1 range.2 && holdAll otherNumberRanges range.1 range.2) = true := by
    decide +kernel
  obtain ⟨range, member, above, below⟩ := (c.inRanges_iff _).mp inside
  obtain ⟨noDigit, number⟩ := Bool.and_eq_true_iff.mp (List.all_eq_true.mp apart range member)
  unfold kindOf
  rw [word, inRanges_of_holdNone noDigit above below, inRanges_of_holdAll number above below]
  rfl

/-- No blank is a letter or a number. -/
theorem not_isBlank_of_isAlphanumeric (word : isAlphanumeric c = true) : isBlank c = false := by
  have apart : blankRanges.all (fun range => holdNone wordRanges range.1 range.2) = true := by
    decide +kernel
  rw [Bool.eq_false_iff]
  intro blank
  obtain ⟨range, member, above, below⟩ := (c.inRanges_iff _).mp blank
  have outside := inRanges_of_holdNone (List.all_eq_true.mp apart range member) above below
  rw [isAlphanumeric_eq, outside] at word
  cases word

end

/-- Whether a run has no letters and numbers, or maps all of them to such of the same kind. -/
def CaseRun.keepsKind (run : CaseRun) : Bool :=
  let first := Int.toNat (run.first + run.shift)
  let last := Int.toNat (run.last + run.shift)
  (0 ≤ run.first + run.shift && (last < 0xD800 || (0xDFFF < first && last < 0x110000)) &&
    [numberFreeRanges, numeralRanges].any (fun ranges =>
      holdAll ranges run.first run.last && holdAll ranges first last) &&
    holdAll wordRanges first last) ||
  holdNone wordRanges run.first run.last

theorem lowerRuns_keep : lowerRuns.all CaseRun.keepsKind = true := by
  decide +kernel

/-- A run that keeps kinds moves a letter or number to one of its kind. -/
theorem CaseRun.kindOf_moved {run : CaseRun} (keeps : run.keepsKind = true) {c : Char}
    (word : isAlphanumeric c = true) (above : run.first ≤ c.toNat) (below : c.toNat ≤ run.last) :
    kindOf (Char.ofNat (Int.toNat (c.toNat + run.shift))) = kindOf c := by
  simp only [keepsKind, Bool.or_eq_true, Bool.and_eq_true, decide_eq_true_eq] at keeps
  rcases keeps with ⟨⟨⟨positive, valid⟩, same⟩, inWords⟩ | none_
  · generalize moves : Int.toNat (c.toNat + run.shift) = code
    have least : Int.toNat (run.first + run.shift) ≤ code := by omega
    have most : code ≤ Int.toNat (run.last + run.shift) := by omega
    have spelt : (Char.ofNat code).toNat = code := by
      have isValid : code.isValidChar := by
        unfold Nat.isValidChar
        omega
      unfold Char.ofNat
      rw [dif_pos isValid]
      rfl
    rw [← spelt] at least most
    have movedWord : isAlphanumeric (Char.ofNat code) = true := by
      rw [isAlphanumeric_eq]
      exact inRanges_of_holdAll inWords least most
    obtain ⟨ranges, member, both⟩ := List.any_eq_true.mp same
    obtain ⟨here, there⟩ := Bool.and_eq_true_iff.mp both
    have inside := inRanges_of_holdAll here above below
    have movedInside := inRanges_of_holdAll there least most
    rcases List.mem_pair.mp member with rfl | rfl
    · rw [kindOf_of_numberFree word inside, kindOf_of_numberFree movedWord movedInside]
    · rw [kindOf_of_numeral word inside, kindOf_of_numeral movedWord movedInside]
  · rw [isAlphanumeric_eq, inRanges_of_holdNone none_ above below] at word
    cases word

theorem kindOf_shifted {c : Char} (word : isAlphanumeric c = true) :
    kindOf (shifted lowerRuns c) = kindOf c := by
  unfold shifted
  split
  · next run found =>
    have holds := List.find?_some found
    simp only [CaseRun.holds, Bool.and_eq_true, decide_eq_true_eq] at holds
    exact CaseRun.kindOf_moved
      (List.all_eq_true.mp lowerRuns_keep run (List.mem_of_find?_eq_some found)) word
      holds.1.1 holds.1.2
  · rfl

theorem kindOf_of_isAlpha {c : Char} (alpha : c.isAlpha = true) : kindOf c = .letter := by
  apply kindOf_of_numberFree
  · apply isAlphanumeric_of_isAlphanum
    simp [Char.isAlphanum, alpha]
  · have bounds := isAlpha_iff_toNat.mp alpha
    exact inRanges_of_holdAll (by decide : holdAll numberFreeRanges 0x41 0x7A = true) (by omega)
      (by omega)

theorem kindOf_of_isDigit {c : Char} (digit : c.isDigit = true) : kindOf c = .digit := by
  have word : isAlphanumeric c = true := by
    apply isAlphanumeric_of_isAlphanum
    simp [Char.isAlphanum, digit]
  have inside : c.inRanges digitRanges = true := by
    obtain ⟨above, below⟩ := Char.isDigit_iff_toNat.mp digit
    exact inRanges_of_holdAll (by decide : holdAll digitRanges 0x30 0x39 = true) above below
  unfold kindOf
  rw [word, inside]
  rfl

theorem kindOf_toLower (c : Char) : kindOf c.toLower = kindOf c := by
  unfold Char.toLower
  split
  · next upper =>
    simp only [UInt32.le_iff_toNat_le, ge_iff_le] at upper
    rw [kindOf_of_isAlpha (c := c), kindOf_of_isAlpha]
    · rw [isAlpha_iff_toNat]
      change (_ ≤ (c.val + 32).toNat ∧ (c.val + 32).toNat ≤ _) ∨
        (_ ≤ (c.val + 32).toNat ∧ (c.val + 32).toNat ≤ _)
      rw [UInt32.toNat_add]
      simp at upper ⊢
      omega
    · exact isAlpha_iff_toNat.mpr (.inl upper)
  · rfl

/-- The capital I with a dot, and the mark that keeps its dot in lower case. -/
def dottedI : Char := 'İ'

def dotAbove : Char := '\u0307'

/-- Lower case keeps the kind of a letter or number, and marks the dot of a dotted I. -/
theorem kindOf_lowerOf {before after : List Char} {c d : Char} (word : isAlphanumeric c = true)
    (member : d ∈ lowerOf before c after) : kindOf d = kindOf c ∨ c = dottedI ∧ d = dotAbove := by
  unfold lowerOf at member
  split at member
  · rw [List.mem_singleton.mp member]
    exact .inl (kindOf_toLower c)
  · split at member
    · next sigma =>
      subst sigma
      rw [List.mem_singleton.mp member]
      left
      split <;> decide +kernel
    · split at member
      · next dotted =>
        subst dotted
        rcases (by simpa using member : d = 'i' ∨ d = '\u0307') with rfl | rfl
        · exact .inl (by decide +kernel)
        · exact .inr ⟨rfl, rfl⟩
      · rw [List.mem_singleton.mp member]
        exact .inl (kindOf_shifted word)

/-- The lower case of a character starts with one of its kind. -/
theorem lowerOf_eq_cons (before after : List Char) {c : Char} (word : isAlphanumeric c = true) :
    ∃ d rest, lowerOf before c after = d :: rest ∧ kindOf d = kindOf c := by
  obtain ⟨d, rest, same⟩ : ∃ d rest, lowerOf before c after = d :: rest := by
    unfold lowerOf
    split
    · exact ⟨_, _, rfl⟩
    · split
      · exact ⟨_, _, rfl⟩
      · split <;> exact ⟨_, _, rfl⟩
  refine ⟨d, rest, same, ?_⟩
  have member : d ∈ lowerOf before c after := by simp [same]
  rcases kindOf_lowerOf word member with kept | ⟨rfl, rfl⟩
  · exact kept
  · -- The mark comes second.
    have first : lowerOf before dottedI after = ['i', dotAbove] := rfl
    rw [first] at same
    cases same

theorem mem_lowerFrom {before text : List Char} {d : Char} :
    d ∈ lowerFrom before text ↔
      ∃ earlier c later, text = earlier ++ c :: later ∧
        d ∈ lowerOf (earlier.reverse ++ before) c later := by
  induction text generalizing before with
  | nil => simp [lowerFrom]
  | cons first rest ih =>
      rw [lowerFrom, List.mem_append, ih]
      constructor
      · rintro (here | ⟨earlier, c, later, rfl, inside⟩)
        · exact ⟨[], first, rest, rfl, here⟩
        · exact ⟨first :: earlier, c, later, rfl, by simpa using inside⟩
      · rintro ⟨earlier, c, later, same, inside⟩
        cases earlier with
        | nil =>
            cases same
            exact .inl inside
        | cons head tail =>
            cases same
            exact .inr ⟨tail, c, later, rfl, by simpa using inside⟩

end GraphGateway.Text
