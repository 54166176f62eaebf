import EntityStore.Proofs.Number.Finite
import EntityStore.ScalarType.Definition
import EntityStore.ScalarType.Validate
import Mathlib.Algebra.Order.Field.Basic
import Mathlib.Algebra.Order.Field.Power
import Mathlib.Data.Nat.Cast.Field
import Mathlib.Data.Rat.Cast.Order

set_option autoImplicit false

/-! # Steps between whole numbers

A finite number is a fraction (`Binary64.toRat`), and a whole one is its whole part
(`natCast_wholePart`). Whether a whole number is so many steps from another one is computed with the
step cut to 128 bits; the distance of two numbers of 64 bits is far below that, so the cut is never
seen (`emod_cutWhole_eq_zero_iff`). -/

namespace EntityStore

namespace Binary64

/-- The fraction for which a finite number stands. -/
def toRat (x : Binary64) : ℚ := x.signedSignificand * (2 : ℚ) ^ x.exponent

theorem scaledRatio_snd_pos {d : Nat} (n : Nat) (positive : 0 < d) (shift : Int) :
    0 < (scaledRatio n d shift).2 := by
  unfold scaledRatio
  split
  · exact positive
  · exact Nat.mul_pos positive (Nat.two_pow_pos _)

/-- Scaling puts a power of two to the side where it is whole. -/
theorem scaledRatio_cast (n : Nat) (shift : Int) :
    ((scaledRatio n 1 shift).1 : ℚ) / (scaledRatio n 1 shift).2 = n * (2 : ℚ) ^ shift := by
  unfold scaledRatio
  split
  · next up =>
    have power : (2 : ℚ) ^ shift = 2 ^ shift.toNat := by
      rw [← zpow_natCast, Int.toNat_of_nonneg up]
    rw [power]
    push_cast
    rw [div_one]
  · next down =>
    have power : (2 : ℚ) ^ shift = (2 ^ (-shift).toNat)⁻¹ := by
      rw [← zpow_natCast, Int.toNat_of_nonneg (by omega), zpow_neg, inv_inv]
    rw [power]
    push_cast
    rw [one_mul, div_eq_mul_inv]

variable {x : Binary64}

theorem scaledRatio_dvd (whole : x.isWhole = true) :
    (scaledRatio x.significand 1 x.exponent).2 ∣ (scaledRatio x.significand 1 x.exponent).1 :=
  Nat.dvd_of_mod_eq_zero (by simpa [isWhole] using whole)

theorem significand_pos (positive : x.isZero = false) : 0 < x.significand := by
  have filled : x.magnitude ≠ 0 := by simpa [isZero] using positive
  unfold significand
  dsimp only
  split <;> omega

theorem toRat_of_not_isNegative (sign : x.isNegative = false) :
    x.toRat = x.significand * (2 : ℚ) ^ x.exponent := by
  rw [toRat, signedSignificand, sign, if_neg Bool.false_ne_true, Int.cast_natCast]

/-- A whole number has nothing but its whole part. -/
theorem natCast_wholePart (sign : x.isNegative = false) (whole : x.isWhole = true) :
    (x.wholePart : ℚ) = x.toRat := by
  have positive := scaledRatio_snd_pos x.significand one_pos x.exponent
  rw [toRat_of_not_isNegative sign, ← scaledRatio_cast]
  exact Nat.cast_div (scaledRatio_dvd whole) (Nat.cast_ne_zero.2 positive.ne')

end Binary64

namespace ScalarType

/-- A whole number is a number of steps. -/
def IsMultiple (i : Int) (step : Binary64) : Prop := ∃ k : Int, (i : ℚ) = k * step.toRat

/-- The steps that a definition may give for whole numbers. -/
structure IsWholeStep (step : Binary64) : Prop where
  finite : step.isFinite = true
  sign : step.isNegative = false
  positive : step.isZero = false
  whole : step.isWhole = true

variable {step : Binary64}

theorem isWholeStep_iff :
    (isPositive step && step.isWhole) = true ↔ IsWholeStep step := by
  simp only [isPositive, Bool.and_eq_true, Bool.not_eq_true']
  exact ⟨fun ⟨⟨⟨f, s⟩, p⟩, w⟩ => ⟨f, s, p, w⟩, fun ⟨f, s, p, w⟩ => ⟨⟨⟨f, s⟩, p⟩, w⟩⟩

namespace IsWholeStep

theorem wholePart_pos (h : IsWholeStep step) : 0 < step.wholePart := by
  have positive := Binary64.scaledRatio_snd_pos step.significand one_pos step.exponent
  have filled : 0 < (Binary64.scaledRatio step.significand 1 step.exponent).1 := by
    have significand : 0 < step.significand := Binary64.significand_pos h.positive
    unfold Binary64.scaledRatio
    split
    · exact Nat.mul_pos significand (Nat.two_pow_pos _)
    · exact significand
  exact Nat.div_pos (Nat.le_of_dvd filled (Binary64.scaledRatio_dvd h.whole)) positive

theorem cutWhole_eq (h : IsWholeStep step) :
    cutWhole step = min (step.wholePart : Int) (2 ^ 127 - 1) := by
  rw [cutWhole, Binary64.isNaN_of_isFinite h.finite, h.finite, h.sign]
  rfl

theorem cutWhole_pos (h : IsWholeStep step) : 0 < cutWhole step := by
  rw [h.cutWhole_eq, lt_min_iff]
  exact ⟨Int.natCast_pos.2 h.wholePart_pos, by decide⟩

theorem isMultiple_iff (h : IsWholeStep step) (i : Int) :
    IsMultiple i step ↔ (step.wholePart : Int) ∣ i := by
  rw [IsMultiple, ← Binary64.natCast_wholePart h.sign h.whole]
  constructor
  · rintro ⟨k, eq⟩
    exact ⟨k, by rw [mul_comm]; exact_mod_cast eq⟩
  · rintro ⟨k, rfl⟩
    exact ⟨k, by push_cast; exact mul_comm _ _⟩

/-- Cutting the step changes nothing for numbers below the cut. -/
theorem emod_cutWhole_eq_zero_iff (h : IsWholeStep step) {i : Int} (small : |i| < 2 ^ 127 - 1) :
    i % cutWhole step = 0 ↔ IsMultiple i step := by
  rw [h.isMultiple_iff, h.cutWhole_eq, ← Int.dvd_iff_emod_eq_zero]
  rcases le_total (step.wholePart : Int) (2 ^ 127 - 1) with le | ge
  · rw [min_eq_left le]
  · -- A step past the cut, and the cut itself, divide only zero.
    rw [min_eq_right ge]
    constructor
    · intro divides
      rw [Int.eq_zero_of_abs_lt_dvd divides small]
      exact dvd_zero _
    · intro divides
      rw [Int.eq_zero_of_abs_lt_dvd divides (small.trans_le ge)]
      exact dvd_zero _

end IsWholeStep

end ScalarType

end EntityStore
