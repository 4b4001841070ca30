import Mathlib.Logic.Basic

/-!
Doubles in order.  Two doubles that are numbers are in one order or the other, and a product of two
finite ones is a number, be it an infinite one.
-/
namespace GraphGateway.Decimal

open Float.Model (UnpackedFloat Format)

/-- A double that is a number, finite or not. -/
def IsNumber (number : Float) : Prop :=
  number.toModel.unpack ≠ .notANumber

/-- A double that is a finite number. -/
def IsFinite (number : Float) : Prop :=
  number.toModel.unpack.isFinite = true

instance (number : Float) : Decidable (IsFinite number) := inferInstanceAs (Decidable (_ = true))

theorem IsFinite.isNumber {number : Float} (finite : IsFinite number) : IsNumber number := by
  intro nan
  unfold IsFinite at finite
  rw [nan] at finite
  cases finite

section Order

theorem compare_swap (one other : UnpackedFloat) :
    one.compare other = (other.compare one).map Ordering.swap := by
  cases one with
  | notANumber => cases other <;> rfl
  | infinity sign =>
      cases other with
      | notANumber => cases sign <;> rfl
      | infinity another => cases sign <;> cases another <;> rfl
      | zero another => cases sign <;> cases another <;> rfl
      | finite another => cases sign <;> cases another <;> rfl
  | zero sign =>
      cases other with
      | notANumber => cases sign <;> rfl
      | infinity another => cases sign <;> cases another <;> rfl
      | zero another => cases sign <;> cases another <;> rfl
      | finite another => cases sign <;> cases another <;> rfl
  | finite sign mantissa exponent positive =>
      cases other with
      | notANumber => cases sign <;> rfl
      | infinity another => cases sign <;> cases another <;> rfl
      | zero another => cases sign <;> cases another <;> rfl
      | finite another size power positiveToo =>
          have sizes : (compare exponent power).then (compare mantissa size) =
              ((compare power exponent).then (compare size mantissa)).swap := by
            have powers : compare exponent power = (compare power exponent).swap :=
              Std.OrientedCmp.eq_swap
            have parts : compare mantissa size = (compare size mantissa).swap :=
              Std.OrientedCmp.eq_swap
            rw [Ordering.swap_then, powers, parts]
          cases sign with
          | negative =>
              cases another with
              | negative => exact congrArg (fun order => some order.swap) sizes
              | positive => rfl
          | positive =>
              cases another with
              | negative => rfl
              | positive => exact congrArg some sizes

theorem compare_isSome {one other : UnpackedFloat} (known : one ≠ .notANumber)
    (otherKnown : other ≠ .notANumber) : ∃ order, one.compare other = some order := by
  cases one with
  | notANumber => exact absurd rfl known
  | infinity sign =>
      cases other with
      | notANumber => exact absurd rfl otherKnown
      | infinity another => cases sign <;> cases another <;> exact ⟨_, rfl⟩
      | zero another => cases sign <;> cases another <;> exact ⟨_, rfl⟩
      | finite another => cases sign <;> cases another <;> exact ⟨_, rfl⟩
  | zero sign =>
      cases other with
      | notANumber => exact absurd rfl otherKnown
      | infinity another => cases sign <;> cases another <;> exact ⟨_, rfl⟩
      | zero another => cases sign <;> cases another <;> exact ⟨_, rfl⟩
      | finite another => cases sign <;> cases another <;> exact ⟨_, rfl⟩
  | finite sign =>
      cases other with
      | notANumber => exact absurd rfl otherKnown
      | infinity another => cases sign <;> cases another <;> exact ⟨_, rfl⟩
      | zero another => cases sign <;> cases another <;> exact ⟨_, rfl⟩
      | finite another => cases sign <;> cases another <;> exact ⟨_, rfl⟩

variable {one other : Float}

theorem lt_iff : one < other ↔
    one.toModel.unpack.compare other.toModel.unpack = some .lt := by
  change decide (UnpackedFloat.lt _ _ = true) = true ↔ _
  unfold UnpackedFloat.lt
  rw [decide_eq_true_iff, beq_iff_eq]

theorem le_iff : one ≤ other ↔
    ∃ order, one.toModel.unpack.compare other.toModel.unpack = some order ∧
      order.isLE = true := by
  change decide (UnpackedFloat.le _ _ = true) = true ↔ _
  unfold UnpackedFloat.le
  rw [decide_eq_true_iff, Option.any_eq_true]

/-- Of two numbers one is at most the other. -/
theorem not_lt_iff_le (known : IsNumber one) (otherKnown : IsNumber other) :
    ¬ one < other ↔ other ≤ one := by
  obtain ⟨order, compared⟩ := compare_isSome known otherKnown
  rw [lt_iff, le_iff, compare_swap other.toModel.unpack, compared]
  cases order <;> simp

theorem isNumber_of_le (below : one ≤ other) : IsNumber one ∧ IsNumber other := by
  obtain ⟨order, compared, -⟩ := le_iff.mp below
  constructor
  · intro nan
    rw [nan] at compared
    cases compared
  · intro nan
    rw [nan] at compared
    cases same : one.toModel.unpack <;> rw [same] at compared <;> cases compared

/-- What is between two finite numbers is finite. -/
theorem isFinite_of_between {least most number : Float} (leastFinite : IsFinite least)
    (mostFinite : IsFinite most) (above : least ≤ number) (below : number ≤ most) :
    IsFinite number := by
  obtain ⟨order, fromLeast, rising⟩ := le_iff.mp above
  obtain ⟨another, toMost, alsoRising⟩ := le_iff.mp below
  unfold IsFinite at leastFinite mostFinite ⊢
  cases same : number.toModel.unpack with
  | notANumber => exact absurd same (isNumber_of_le below).1
  | zero => rfl
  | finite => rfl
  | infinity sign =>
      rw [same] at fromLeast toMost
      cases sign with
      | negative =>
          cases low : least.toModel.unpack with
          | notANumber => rw [low] at leastFinite; cases leastFinite
          | infinity => rw [low] at leastFinite; cases leastFinite
          | zero sign =>
              rw [low] at fromLeast
              cases sign <;> cases fromLeast <;> cases rising
          | finite sign =>
              rw [low] at fromLeast
              cases sign <;> cases fromLeast <;> cases rising
      | positive =>
          cases high : most.toModel.unpack with
          | notANumber => rw [high] at mostFinite; cases mostFinite
          | infinity => rw [high] at mostFinite; cases mostFinite
          | zero sign =>
              rw [high] at toMost
              cases toMost
              cases alsoRising
          | finite sign =>
              rw [high] at toMost
              cases toMost
              cases alsoRising

end Order

section Product

open Float.Model.UnpackedFloat (unpackExponent unpackMantissa)

theorem fraction_of_unpack_nan {spec : Format} {bits : BitVec spec.numBits}
    (nan : UnpackedFloat.unpack spec bits = .notANumber) :
    unpackExponent bits = (-1#_) ∧ unpackMantissa bits ≠ 0#_ := by
  unfold UnpackedFloat.unpack at nan
  dsimp only at nan
  by_cases full : unpackExponent bits = (-1#_)
  · rw [if_pos full] at nan
    by_cases fraction : unpackMantissa bits = 0#_
    · rw [if_pos fraction] at nan
      cases nan
    · exact ⟨full, fraction⟩
  · rw [if_neg full] at nan
    by_cases small : unpackExponent bits = 0#_
    · rw [if_pos small] at nan
      by_cases fraction : unpackMantissa bits = 0#_
      · rw [dif_pos fraction] at nan
        cases nan
      · rw [dif_neg fraction] at nan
        cases nan
    · rw [if_neg small] at nan
      cases nan

/-- Only a number that is none is written down with a full exponent and a fraction. -/
theorem unpack_pack_ne {spec : Format} {number : UnpackedFloat} (known : number ≠ .notANumber) :
    UnpackedFloat.unpack spec (number.pack spec) ≠ .notANumber := by
  intro nan
  obtain ⟨full, fraction⟩ := fraction_of_unpack_nan nan
  revert full fraction
  fun_cases UnpackedFloat.pack spec number with
  | case1 => exact absurd rfl known
  | case2 sign => simp [UnpackedFloat.packedInfinity]
  | case3 sign => simp [UnpackedFloat.packedZero]
  | case4 sign size power positive biased large => simp [UnpackedFloat.packedInfinity]
  | case5 sign size power positive bits biased small normal =>
      intro full
      exfalso
      rw [UnpackedFloat.unpackExponent_packComponents] at full
      have exponent := congrArg BitVec.toNat full
      rw [BitVec.toNat_ofNat, BitVec.neg_one_eq_allOnes, BitVec.toNat_allOnes,
        Nat.mod_eq_of_lt (by omega)] at exponent
      omega
  | case6 sign size power positive bits biased small subnormal =>
      intro full
      exfalso
      rw [UnpackedFloat.unpackExponent_packComponents] at full
      have exponent := congrArg BitVec.toNat full
      rw [BitVec.neg_one_eq_allOnes, BitVec.toNat_allOnes] at exponent
      have wide := Nat.pow_le_pow_right (by decide : 0 < 2) (spec.he : 1 ≤ spec.exponentBits)
      simp at exponent
      omega

theorem mul_ne_nan {spec : Format} {one other : UnpackedFloat} (finite : one.isFinite = true)
    (otherFinite : other.isFinite = true) : UnpackedFloat.mul spec one other ≠ .notANumber := by
  cases one with
  | notANumber => cases finite
  | infinity => cases finite
  | zero sign =>
      cases other with
      | notANumber => cases otherFinite
      | infinity => cases otherFinite
      | zero => exact UnpackedFloat.noConfusion
      | finite => exact UnpackedFloat.noConfusion
  | finite sign size power positive =>
      cases other with
      | notANumber => cases otherFinite
      | infinity => cases otherFinite
      | zero => exact UnpackedFloat.noConfusion
      | finite =>
          intro nan
          unfold UnpackedFloat.mul UnpackedFloat.roundWithAccuracy at nan
          dsimp only at nan
          rcases dite_eq_iff.mp nan with ⟨empty, same⟩ | ⟨some_, same⟩
          · cases same
          · cases same

/-- The product of two finite numbers is a number. -/
theorem isNumber_mul {one other : Float} (finite : IsFinite one) (otherFinite : IsFinite other) :
    IsNumber (one * other) :=
  unpack_pack_ne (mul_ne_nan finite otherFinite)

end Product

end GraphGateway.Decimal
