import EntityStore.Number.Binary64

set_option autoImplicit false

/-! # Whole numbers of 64 bits are finite as numbers of double precision

The significand that is rounded is below `2⁵⁴`, and the exponent is small (`ofInt_isFinite`). -/

namespace EntityStore.Binary64

theorem isNaN_of_isFinite {x : Binary64} (h : x.isFinite = true) : x.isNaN = false :=
  decide_eq_false (Nat.lt_asymm (of_decide_eq_true h))

theorem magnitude_ofMagnitude (negative : Bool) (n : Nat) :
    (ofMagnitude negative n).magnitude = min n infinityMagnitude := by
  have bound : min n infinityMagnitude < 2 ^ 63 := by
    unfold infinityMagnitude
    omega
  unfold magnitude ofMagnitude
  cases negative <;> simp [UInt64.toNat_ofNat] <;> omega

theorem isFinite_ofMagnitude {negative : Bool} {n : Nat} (h : n < infinityMagnitude) :
    (ofMagnitude negative n).isFinite = true := by
  rw [isFinite, magnitude_ofMagnitude, decide_eq_true_eq]
  omega

theorem nearestEven_le (n d : Nat) : nearestEven n d ≤ n / d + 1 := by
  unfold nearestEven
  dsimp only
  split <;> omega

/-- A quotient by a power of two that leaves 53 bits after the first one, or fewer. -/
theorem scaled_lt {n : Nat} {q : Int} (hq : (n.log2 : Int) - 53 ≤ q) :
    (scaledRatio n 1 (-q)).1 / (scaledRatio n 1 (-q)).2 < 2 ^ 54 := by
  have bound : n < 2 ^ (n.log2 + 1) := Nat.lt_log2_self
  unfold scaledRatio
  split
  · next h =>
    -- Scaled up: the bits of `n` and the added ones are at most 54.
    have room : n.log2 + 1 + (-q).toNat ≤ 54 := by omega
    calc n * 2 ^ (-q).toNat / 1 = n * 2 ^ (-q).toNat := Nat.div_one _
      _ < 2 ^ (n.log2 + 1) * 2 ^ (-q).toNat := Nat.mul_lt_mul_of_pos_right bound (Nat.two_pow_pos _)
      _ = 2 ^ (n.log2 + 1 + (-q).toNat) := (Nat.pow_add _ _ _).symm
      _ ≤ 2 ^ 54 := Nat.pow_le_pow_right (by decide) room
  · next h =>
    -- Scaled down: so many bits are divided away that at most 54 are left.
    have room : n.log2 + 1 ≤ 54 + (- -q).toNat := by omega
    refine Nat.div_lt_of_lt_mul ?_
    calc n < 2 ^ (n.log2 + 1) := bound
      _ ≤ 2 ^ (54 + (- -q).toNat) := Nat.pow_le_pow_right (by decide) room
      _ = 1 * 2 ^ (- -q).toNat * 2 ^ 54 := by rw [Nat.pow_add, Nat.one_mul, Nat.mul_comm]

theorem exponentFor_bounds {n : Nat} (h : n.log2 ≤ 64) :
    (n.log2 : Int) - 53 ≤ exponentFor n 1 ∧ exponentFor n 1 ≤ 12 ∧ -1074 ≤ exponentFor n 1 := by
  have one : Nat.log2 1 = 0 := by decide
  unfold exponentFor
  rw [one]
  dsimp only
  split <;> omega

theorem ofRatio_isFinite {n : Nat} (h : n < 2 ^ 65) (negative : Bool) :
    (ofRatio negative n 1).isFinite = true := by
  unfold ofRatio
  split
  · exact isFinite_ofMagnitude (by decide)
  · next hn =>
    have log : n.log2 ≤ 64 := Nat.lt_succ_iff.1 ((Nat.log2_lt hn).2 h)
    obtain ⟨low, high, least⟩ := exponentFor_bounds log
    have quotient := scaled_lt low
    have rounded := nearestEven_le (scaledRatio n 1 (-exponentFor n 1)).1
      (scaledRatio n 1 (-exponentFor n 1)).2
    dsimp only
    apply isFinite_ofMagnitude
    unfold infinityMagnitude
    -- The field of the exponent stays below 2047, whatever rounding adds.
    have exponent : (exponentFor n 1 + 1074).toNat ≤ 1086 := by omega
    omega

theorem ofInt_isFinite {i : Int} (h : i.natAbs < 2 ^ 65) : (ofInt i).isFinite = true :=
  ofRatio_isFinite h _

end EntityStore.Binary64
