import EntityStore.Proofs.Text.Blank
import EntityStore.Proofs.Time.Calendar
import EntityStore.Time.Reader

set_option autoImplicit false

/-! # Reading back the text of an instant

In the years 0 to 9999 the text of an instant has the internet form, and reading it gives the
instant again, to the millisecond (`ofText?_toText`). -/

namespace EntityStore.Instant

/-- The year in which an instant lies. -/
def year (t : Instant) : Int := (CivilDate.ofDays (t.seconds / 86400)).year

/-! ## Numbers of fixed width -/

theorem value_eq (l : List Char) : Digits.value l = Nat.ofDigitChars 10 l 0 := by
  rw [Nat.ofDigitChars_eq_foldl, Digits.value]
  simp only [Nat.mul_comm]
  rfl

section Padded

variable {width n : Nat} (h : n < 10 ^ width)

theorem value_padded (width n : Nat) : Digits.value (padded width n) = n := by
  rw [value_eq, padded, Nat.ofDigitChars_append, Nat.ofDigitChars_replicate_zero, Nat.mul_zero,
    Nat.ofDigitChars_ten_toDigits]

theorem isDigit_padded (width n : Nat) : ∀ c ∈ padded width n, c.isDigit = true := by
  intro c hc
  rcases List.mem_append.1 hc with hc | hc
  · rw [List.eq_of_mem_replicate hc]
    rfl
  · exact Nat.isDigit_of_mem_toDigits (by decide) (by decide) hc

theorem padded_ne_nil (width n : Nat) : padded width n ≠ [] :=
  List.append_ne_nil_of_right_ne_nil _ Nat.toDigits_ne_nil

include h

theorem length_padded (hw : 0 < width) : (padded width n).length = width := by
  have short : (Nat.toDigits 10 n).length ≤ width := (Nat.length_toDigits_le_iff (by decide) hw).2 h
  rw [padded, List.length_append, List.length_replicate]
  omega

/-- A number of fixed width is read off the front of a text. -/
theorem takeNumber_padded (hw : 0 < width) {least : Nat} (hl : least ≤ width) (rest : List Char) :
    takeNumber least width (padded width n ++ rest) = some (n, rest) := by
  have length := length_padded h hw
  -- The digits end where the width does, whatever follows.
  have digits : ((padded width n ++ rest).take width).takeWhile Char.isDigit = padded width n := by
    rw [List.take_append_of_le_length (by omega), List.take_of_length_le (by omega)]
    exact List.takeWhile_eq_self_iff.2 (isDigit_padded width n)
  unfold takeNumber
  rw [digits]
  dsimp only
  rw [if_neg (by omega), value_padded, List.drop_left]

end Padded

/-- Three digits after the point are milliseconds. -/
theorem takeOptionalFraction_padded {ms : Nat} (h : ms < 1000) :
    takeOptionalFraction ('.' :: (padded 3 ms ++ ['Z'])) = some (ms * 1000000, ['Z']) := by
  have length : (padded 3 ms).length = 3 := length_padded h (by decide)
  have digits : Digits.split (padded 3 ms ++ ['Z']) = (padded 3 ms, ['Z']) := by
    have all := isDigit_padded 3 ms
    rw [Digits.split, List.takeWhile_append_of_pos all, List.dropWhile_append_of_pos all]
    rw [show ['Z'].takeWhile Char.isDigit = [] by decide, List.append_nil]
    rfl
  have filled : (padded 3 ms).isEmpty = false := by
    rw [List.isEmpty_eq_false_iff, ← List.length_pos_iff, length]
    decide
  show takeFraction (padded 3 ms ++ ['Z']) = _
  unfold takeFraction
  rw [digits]
  dsimp only
  rw [filled, List.take_of_length_le (by omega), length, value_padded]
  rfl

/-! ## The internet form -/

/-- The text of date and time of day in universal time, to the millisecond. -/
def internetText (f : Fields) : List Char :=
  padded 4 f.date.year.toNat ++ '-' :: (padded 2 f.date.month ++ '-' :: (padded 2 f.date.day ++
    'T' :: (padded 2 f.hour ++ ':' :: (padded 2 f.minute ++ ':' :: (padded 2 f.second ++
    '.' :: (padded 3 (f.nanos / 1000000) ++ ['Z']))))))

theorem internetMillis?_internetText {f : Fields} (valid : f.isValid = true)
    (hy : 0 ≤ f.date.year ∧ f.date.year ≤ 9999) (hn : f.nanos < 1000000000)
    (whole : f.nanos % 1000000 = 0) : internetMillis? (internetText f) = some (f.millis 0) := by
  obtain ⟨⟨y, month, day⟩, hour, minute, second, nanos⟩ := f
  have fields := valid
  simp only [Fields.isValid, Bool.and_eq_true, decide_eq_true_eq] at fields
  obtain ⟨⟨⟨⟨⟨date, -⟩, -⟩, hhour⟩, hminute⟩, hsecond⟩ := fields
  obtain ⟨hmonth, hday⟩ := CivilDate.bounds_of_isValid date
  dsimp only at hy hn whole hmonth hday
  -- In natural numbers every field has its width.
  obtain ⟨y, rfl⟩ := Int.eq_ofNat_of_zero_le hy.1
  obtain ⟨ms, rfl⟩ : ∃ ms, nanos = ms * 1000000 := ⟨nanos / 1000000, by omega⟩
  have year (rest : List Char) : takeNumber 4 4 (padded 4 y ++ rest) = some (y, rest) :=
    takeNumber_padded (show y < 10 ^ 4 by omega) (by decide) (by decide) rest
  have field {n : Nat} (hn : n < 100) (rest : List Char) :
      takeNumber 2 2 (padded 2 n ++ rest) = some (n, rest) :=
    takeNumber_padded hn (by decide) (by decide) rest
  have mark (c : Char) (rest : List Char) : takeChar c (c :: rest) = some rest := if_pos rfl
  have first (rest : List Char) (other : Option (List Char)) : (some rest <|> other) = some rest :=
    rfl
  have fraction := takeOptionalFraction_padded (show ms < 1000 by omega)
  have offset : takeOffset ['Z'] = some (0, []) := rfl
  unfold internetMillis? internetText
  simp only [Int.toNat_natCast, Nat.mul_div_cancel ms (show 0 < 1000000 by decide)]
  -- Field after field is read off the front; what is left is the next one.
  rw [Option.bind_eq_bind, year]
  simp only [field (show month < 100 by omega), field (show day < 100 by omega),
    field (show hour < 100 by omega), field (show minute < 100 by omega),
    field (show second < 100 by omega), mark, first, fraction, offset,
    Option.bind_eq_bind, Option.bind_some, List.isEmpty_nil, Bool.true_and]
  rw [if_pos valid]

/-! ## Instants -/

/-- Date and time of day of an instant. -/
def fields (t : Instant) : Fields :=
  let second := (t.seconds % 86400).toNat
  { date := CivilDate.ofDays (t.seconds / 86400), hour := second / 3600, minute := second / 60 % 60
    second := second % 60, nanos := t.nanos }

/-- An instant to the millisecond is not in a leap second. -/
theorem nanos_of_truncate? {t : Instant} (h : t.truncate? = some t) :
    t.nanos < 1000000000 ∧ t.nanos % 1000000 = 0 := by
  unfold truncate? ofMillis? ofParts? at h
  split at h
  · have nanos := congrArg (Instant.nanos) (Option.some.inj h)
    dsimp only at nanos
    omega
  · exact absurd h (by simp)

theorem toText_isEmpty (t : Instant) : t.toText.isEmpty = false := by
  rw [toText, String.isEmpty_eq_false_iff]
  intro empty
  have none := congrArg String.toList empty
  simp at none

section Text

variable {t : Instant} (hy : 0 ≤ t.year ∧ t.year ≤ 9999) (hn : t.nanos < 1000000000)

theorem millis_fields (t : Instant) : t.fields.millis 0 = t.millis := by
  -- Days and seconds of the day together are all seconds.
  have split : t.seconds = t.seconds / 86400 * 86400 + t.seconds % 86400 := by omega
  unfold Fields.millis fields millis
  simp only [CivilDate.toDays_ofDays]
  omega

include hy in
theorem isValid_fields : t.fields.isValid = true := by
  obtain ⟨low, high⟩ := hy
  unfold year at low high
  simp only [Fields.isValid, Bool.and_eq_true, decide_eq_true_eq]
  unfold fields
  dsimp only
  exact ⟨⟨⟨⟨⟨CivilDate.isValid_ofDays _, by omega⟩, by omega⟩, by omega⟩, by omega⟩, by omega⟩

include hy hn

theorem toText_eq : t.toText = String.ofList (internetText t.fields) := by
  have year : yearText t.year = padded 4 t.year.toNat := if_pos hy
  have leap : (if 1000000000 ≤ t.nanos then 1 else 0) = 0 := if_neg (by omega)
  have nanos : t.nanos % 1000000000 = t.nanos := Nat.mod_eq_of_lt hn
  unfold Instant.year at year
  unfold toText secondText internetText fields
  simp only [year, leap, nanos, List.append_assoc, List.cons_append, Nat.add_zero]

theorem trim_toText : Text.trim t.toText = t.toText := by
  have trimmed : Text.Trimmed (internetText t.fields) := by
    constructor
    · intro c hc
      refine Text.isBlank_of_isDigit (isDigit_padded 4 t.fields.date.year.toNat c ?_)
      rw [internetText, List.head?_append_of_ne_nil _ (padded_ne_nil _ _)] at hc
      exact List.mem_of_mem_head? hc
    · intro c hc
      obtain rfl : 'Z' = c := by simpa [internetText] using hc
      decide
  rw [toText_eq hy hn, Text.trim, String.toList_ofList, Text.trimList_eq_self trimmed]

end Text

/-- Reading the text of an instant to the millisecond, in the years 0 to 9999, gives it again. -/
theorem ofText?_toText {t : Instant} (hy : 0 ≤ t.year ∧ t.year ≤ 9999)
    (whole : t.truncate? = some t) : ofText? t.toText = some t := by
  obtain ⟨hn, hw⟩ := nanos_of_truncate? whole
  have read := internetMillis?_internetText (isValid_fields hy) hy hn hw
  rw [millis_fields] at read
  rw [toText_eq hy hn, ofText?, textMillis?, String.toList_ofList, read]
  exact whole

end EntityStore.Instant
