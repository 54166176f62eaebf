import EntityStore.Time.Calendar

set_option autoImplicit false

/-! # A day and its date determine each other

The date of a day exists, and it is the date of no other day (`isValid_ofDays`, `toDays_ofDays`).

The year of an era is found by a formula. It is the right one: the years begin on certain days of
the era (`yearStart`), the formula does not decrease from day to day, and it gives each year on the
first and on the last day of it. -/

namespace EntityStore.CivilDate

/-! ## Years of an era -/

/-- The day of an era on which a year of it begins, in March. -/
def yearStart (k : Nat) : Nat := 365 * k + k / 4 - k / 100 + k / 400

theorem yearStart_succ_le (k : Nat) : yearStart (k + 1) ≤ yearStart k + 366 := by
  have leap : (k + 1) / 400 + k / 100 ≤ k / 400 + (k + 1) / 100 := by omega
  have four : (k + 1) / 4 ≤ k / 4 + 1 := by omega
  have century : k / 100 ≤ k / 4 := by omega
  unfold yearStart
  omega

/-- What the formula for the year divides by 365, for a day of an era. -/
def yearNumerator (n : Nat) : Nat := n - n / 1460 + n / 36524 - n / 146096

theorem yearNumerator_mono {n m : Nat} (h : n ≤ m) : yearNumerator n ≤ yearNumerator m := by
  induction h with
  | refl => exact Nat.le_refl _
  | step _ ih =>
    refine Nat.le_trans ih ?_
    unfold yearNumerator
    omega

/-- On the first and on the last day of a year the formula gives that year. -/
theorem yearNumerator_ends : ∀ k < 400, 365 * k ≤ yearNumerator (yearStart k) ∧
    yearNumerator (yearStart (k + 1) - 1) < 365 * (k + 1) := by decide +kernel

theorem exists_year (bound n : Nat) (h : n < yearStart bound) :
    ∃ k < bound, yearStart k ≤ n ∧ n < yearStart (k + 1) := by
  induction bound with
  | zero => exact absurd h (by simp [yearStart])
  | succ k ih =>
    by_cases hk : n < yearStart k
    · obtain ⟨j, hj, within⟩ := ih hk
      exact ⟨j, Nat.lt_succ_of_lt hj, within⟩
    · exact ⟨k, Nat.lt_succ_self k, Nat.le_of_not_lt hk, h⟩

/-- The formula gives the year in which a day of an era lies. -/
theorem year_within {n : Nat} (h : n < 146097) :
    yearNumerator n / 365 < 400 ∧ yearStart (yearNumerator n / 365) ≤ n ∧
      n < yearStart (yearNumerator n / 365 + 1) := by
  obtain ⟨k, hk, first, last⟩ := exists_year 400 n (by simpa [yearStart] using h)
  obtain ⟨low, high⟩ := yearNumerator_ends k hk
  -- The formula does not fall from day to day, so its values at both ends of the year bound it.
  have above := yearNumerator_mono first
  have below := yearNumerator_mono (Nat.le_sub_one_of_lt last)
  have year : yearNumerator n / 365 = k := by omega
  rw [year]
  exact ⟨hk, first, last⟩

/-! ## Months of a year -/

/-- The month of a day of a year, both counted from March. -/
def marchMonth (n : Nat) : Nat := (5 * n + 2) / 153

/-- The month begins on or before the day, which is a day of it. -/
theorem marchMonth_within : ∀ n < 366, marchMonth n < 12 ∧ (153 * marchMonth n + 2) / 5 ≤ n ∧
    n - (153 * marchMonth n + 2) / 5 < 31 ∧
    (marchMonth n ∈ [1, 3, 6, 8] → n - (153 * marchMonth n + 2) / 5 < 30) ∧
    (marchMonth n = 11 → n - (153 * marchMonth n + 2) / 5 < if n < 365 then 28 else 29) := by
  decide +kernel

/-! ## Dates -/

/-- A year that has 366 days from March on is followed by a leap day. -/
theorem isLeapYear_of_long {k : Nat} (hk : k < 400) (h : yearStart k + 365 < yearStart (k + 1))
    (era : Int) : isLeapYear (era * 400 + k + 1) = true := by
  unfold yearStart at h
  have leap : (k + 1) % 4 = 0 ∧ ((k + 1) % 100 ≠ 0 ∨ (k + 1) % 400 = 0) := by omega
  simp only [isLeapYear, Bool.and_eq_true, Bool.or_eq_true, beq_iff_eq, bne_iff_ne]
  omega

/-- The date of a day in natural numbers: `n` is the day of its era, `k` the year, `d` the day of
the year. -/
theorem ofDays_eq (days : Int) : ∃ (era : Int) (n k d : Nat),
    days = era * 146097 + n - 719468 ∧ k < 400 ∧ d < 366 ∧
    n + k / 100 = 365 * k + k / 4 + d ∧ (d = 365 → isLeapYear (era * 400 + k + 1) = true) ∧
    ofDays days =
      { year := era * 400 + k + if marchMonth d < 10 then 0 else 1
        month := if marchMonth d < 10 then marchMonth d + 3 else marchMonth d - 9
        day := d - (153 * marchMonth d + 2) / 5 + 1 } := by
  -- Within an era everything is counted in natural numbers.
  obtain ⟨n, hn⟩ : ∃ n : Nat, (days + 719468) % 146097 = n :=
    Int.eq_ofNat_of_zero_le (Int.emod_nonneg _ (by decide))
  have bound : n < 146097 := by omega
  obtain ⟨hk, first, last⟩ := year_within bound
  obtain ⟨k, eq⟩ : ∃ k, yearNumerator n / 365 = k := ⟨_, rfl⟩
  rw [eq] at hk first last
  obtain ⟨d, split⟩ : ∃ d, n = yearStart k + d := ⟨n - yearStart k, by omega⟩
  have short : d < 366 := by
    have := yearStart_succ_le k
    omega
  refine ⟨(days + 719468) / 146097, n, k, d, by omega, hk, short, ?_, ?_, ?_⟩
  · unfold yearStart at split
    omega
  · rintro rfl
    exact isLeapYear_of_long hk (by omega) _
  · obtain ⟨hm, start, -⟩ := marchMonth_within d short
    -- The parts of the formula, brought from integers to natural numbers.
    have year : ((n : Int) - n / 1460 + n / 36524 - n / 146096) / 365 = k := by
      unfold yearNumerator at eq
      omega
    have day : (n : Int) - (365 * k + k / 4 - k / 100) = d := by
      unfold yearStart at split
      omega
    have month : (5 * (d : Int) + 2) / 153 = marchMonth d := by
      unfold marchMonth
      omega
    unfold ofDays
    simp only [hn, year, day, month, CivilDate.mk.injEq]
    refine ⟨?_, ?_, by omega⟩
    · split <;> split <;> omega
    · split <;> split <;> omega

theorem toDays_ofDays (days : Int) : (ofDays days).toDays = days := by
  obtain ⟨era, n, k, d, hdays, hk, hd, split, -, eq⟩ := ofDays_eq days
  obtain ⟨hm, start, -⟩ := marchMonth_within d hd
  have march : ∀ m < 12, ((if m < 10 then m + 3 else m - 9) + 9) % 12 = m := by decide
  -- January and February belong to the year that began in March.
  have year : (if (if marchMonth d < 10 then marchMonth d + 3 else marchMonth d - 9) ≤ 2
      then era * 400 + k + (if marchMonth d < 10 then 0 else 1) - 1
      else era * 400 + k + if marchMonth d < 10 then 0 else 1) = era * 400 + (k : Int) := by
    split <;> split <;> omega
  rw [eq]
  unfold toDays
  simp only [march _ hm, year]
  have quotient : (era * 400 + (k : Int)) / 400 = era := by omega
  have remainder : (era * 400 + (k : Int)) % 400 = k := by omega
  rw [quotient, remainder, hdays]
  omega

/-- February of a leap year has 29 days, and the lengths of the other months do not depend on the
year. -/
theorem le_monthLength {m : Nat} (hm : m < 12) {day : Nat} (year : Int) (long : day ≤ 31)
    (short : m ∈ [1, 3, 6, 8] → day ≤ 30)
    (february : m = 11 → day ≤ if isLeapYear year then 29 else 28) :
    day ≤ monthLength year (if m < 10 then m + 3 else m - 9) := by
  by_cases hs : m ∈ [1, 3, 6, 8]
  · have length : ∀ m ∈ [1, 3, 6, 8], monthLength year (if m < 10 then m + 3 else m - 9) = 30 := by
      simp [monthLength]
    rw [length m hs]
    exact short hs
  by_cases hf : m = 11
  · subst hf
    exact february rfl
  · have length : ∀ m < 12, m ∉ [1, 3, 6, 8] → m ≠ 11 →
        (if m < 10 then m + 3 else m - 9) ≠ 2 ∧
        (if m < 10 then m + 3 else m - 9) ∉ [4, 6, 9, 11] ∧
        1 ≤ (if m < 10 then m + 3 else m - 9) ∧ (if m < 10 then m + 3 else m - 9) ≤ 12 := by
      decide
    obtain ⟨h2, h30, within⟩ := length m hm hs hf
    rw [monthLength, if_neg h2, if_neg h30, if_pos within]
    exact long

theorem isValid_ofDays (days : Int) : (ofDays days).isValid = true := by
  obtain ⟨era, n, k, d, hdays, hk, hd, split, leap, eq⟩ := ofDays_eq days
  obtain ⟨hm, start, long, short, february⟩ := marchMonth_within d hd
  rw [eq]
  unfold isValid
  rw [Bool.and_eq_true, decide_eq_true_eq, decide_eq_true_eq]
  refine ⟨by simp, le_monthLength hm _ long short fun last => ?_⟩
  have length := february last
  dsimp only
  rw [if_neg (show ¬ marchMonth d < 10 by omega)]
  -- Only the day after the 365th needs a leap year.
  by_cases early : d < 365
  · rw [if_pos early] at length
    split <;> omega
  · rw [if_neg early] at length
    rw [if_pos (leap (by omega))]
    omega

theorem monthLength_bounds (year : Int) (month : Nat) :
    monthLength year month ≤ 31 ∧ (12 < month → monthLength year month = 0) := by
  unfold monthLength
  split
  · split <;> omega
  · split
    · next short =>
      simp only [List.mem_cons, List.not_mem_nil, or_false] at short
      omega
    · split <;> omega

theorem bounds_of_isValid {d : CivilDate} (h : d.isValid = true) : d.month ≤ 12 ∧ d.day ≤ 31 := by
  obtain ⟨length, none⟩ := monthLength_bounds d.year d.month
  simp only [isValid, Bool.and_eq_true, decide_eq_true_eq] at h
  omega

end EntityStore.CivilDate
