import EntityStore.Proofs.ScalarType.Canonical

set_option autoImplicit false

/-! # Which dates survive being stored

A date is stored as a text, and the text of a date is read back as this date if it lies in the
years 0 to 9999. Outside of these the year is written with a sign, and such a text is read by none
of the forms: the internet form wants four digits first, and the other forms leave the `Z` at the
end unread. So a date is restored or becomes invalid, and its year alone decides about that
(`restored_date`). -/

namespace EntityStore

namespace Instant

/-! ## The mark of universal time is left unread

What takes a number, a fraction, blanks or another mark off the front of a text leaves every `Z` in
the rest of it. -/

variable {s r : List Char}

theorem mem_of_takeNumber {least most n : Nat} (h : takeNumber least most s = some (n, r))
    (mem : 'Z' ∈ s) : 'Z' ∈ r := by
  unfold takeNumber at h
  dsimp only at h
  split at h
  · exact absurd h (by simp)
  obtain ⟨-, rfl⟩ := Prod.mk.inj (Option.some.inj h)
  -- The text is the digits that were taken and the rest, and `Z` is no digit.
  obtain ⟨rest, eq⟩ : (s.take most).takeWhile Char.isDigit <+: s :=
    (List.takeWhile_prefix _).trans (List.take_prefix _ _)
  have digits : 'Z' ∉ (s.take most).takeWhile Char.isDigit :=
    fun taken => absurd (List.mem_takeWhile_imp taken) (by decide)
  generalize (s.take most).takeWhile Char.isDigit = front at eq digits
  subst eq
  rw [List.drop_left]
  exact (List.mem_append.1 mem).resolve_left digits

theorem mem_dropWhile {test : Char → Bool} (other : test 'Z' = false) (mem : 'Z' ∈ s) :
    'Z' ∈ s.dropWhile test := by
  have front : 'Z' ∉ s.takeWhile test := by
    intro taken
    exact absurd (List.mem_takeWhile_imp taken) (by simp [other])
  rw [← List.takeWhile_append_dropWhile (p := test) (l := s)] at mem
  exact (List.mem_append.1 mem).resolve_left front

theorem mem_trimFront (mem : 'Z' ∈ s) : 'Z' ∈ Text.trimFront s := mem_dropWhile (by decide) mem

theorem mem_of_takeChar {c : Char} (other : c ≠ 'Z') (h : takeChar c s = some r) (mem : 'Z' ∈ s) :
    'Z' ∈ r := by
  cases s with
  | nil => exact absurd h (by simp [takeChar])
  | cons d rest =>
    rw [takeChar] at h
    split at h
    · next eq =>
      obtain rfl := Option.some.inj h
      exact (List.mem_cons.1 mem).resolve_left fun first => other (eq.trans first.symm)
    · exact absurd h (by simp)

theorem mem_of_takeOptionalFraction {n : Nat} (h : takeOptionalFraction s = some (n, r))
    (mem : 'Z' ∈ s) : 'Z' ∈ r := by
  unfold takeOptionalFraction at h
  split at h
  · next rest =>
    have after : 'Z' ∈ rest := (List.mem_cons.1 mem).resolve_left (by decide)
    unfold takeFraction Digits.split at h
    dsimp only at h
    split at h
    · exact absurd h (by simp)
    obtain ⟨-, rfl⟩ := Prod.mk.inj (Option.some.inj h)
    exact mem_dropWhile (by decide) after
  · obtain ⟨-, rfl⟩ := Prod.mk.inj (Option.some.inj h)
    exact mem

theorem mem_of_takeYear {year : Int} (h : takeYear s = some (year, r)) (mem : 'Z' ∈ s) :
    'Z' ∈ r := by
  unfold takeYear at h
  split at h
  all_goals
    obtain ⟨⟨n, rest⟩, taken, eq⟩ := Option.map_eq_some_iff.1 h
    obtain ⟨-, rfl⟩ := Prod.mk.inj eq
  · exact mem_of_takeNumber taken ((List.mem_cons.1 mem).resolve_left (by decide))
  · exact mem_of_takeNumber taken ((List.mem_cons.1 mem).resolve_left (by decide))
  · exact mem_of_takeNumber taken mem

theorem Part.mem_of_take {part : Part} {f g : Fields} (other : part ≠ .mark 'Z')
    (h : part.take f s = some (g, r)) (mem : 'Z' ∈ s) : 'Z' ∈ r := by
  unfold Part.take at h
  cases part with
  | year =>
    obtain ⟨⟨y, rest⟩, taken, eq⟩ := Option.map_eq_some_iff.1 h
    obtain ⟨-, rfl⟩ := Prod.mk.inj eq
    exact mem_of_takeYear taken (mem_trimFront mem)
  | fraction =>
    obtain ⟨⟨n, rest⟩, taken, eq⟩ := Option.map_eq_some_iff.1 h
    obtain ⟨-, rfl⟩ := Prod.mk.inj eq
    exact mem_of_takeOptionalFraction taken mem
  | mark c =>
    obtain ⟨rest, taken, eq⟩ := Option.map_eq_some_iff.1 h
    obtain ⟨-, rfl⟩ := Prod.mk.inj eq
    exact mem_of_takeChar (fun eq => other (eq ▸ rfl)) taken mem
  | blanks =>
    obtain ⟨-, rfl⟩ := Prod.mk.inj (Option.some.inj h)
    exact mem_trimFront mem
  -- The other fields are numbers after blanks.
  | month | day | hour | minute | second =>
    obtain ⟨⟨n, rest⟩, taken, eq⟩ := Option.map_eq_some_iff.1 h
    obtain ⟨-, rfl⟩ := Prod.mk.inj eq
    exact mem_of_takeNumber taken (mem_trimFront mem)

theorem mem_of_foldlM_take {form : List Part} (other : Part.mark 'Z' ∉ form) {f g : Fields}
    (h : form.foldlM (fun (f, r) part => part.take f r) (f, s) = some (g, r)) (mem : 'Z' ∈ s) :
    'Z' ∈ r := by
  induction form generalizing f s with
  | nil =>
    obtain ⟨-, rfl⟩ := Prod.mk.inj (Option.some.inj h)
    exact mem
  | cons part form ih =>
    rw [List.mem_cons, not_or] at other
    rw [List.foldlM_cons, Option.bind_eq_bind, Option.bind_eq_some_iff] at h
    obtain ⟨⟨f', s'⟩, taken, rest⟩ := h
    exact ih other.2 rest (Part.mem_of_take (Ne.symm other.1) taken mem)

/-- A form without the mark of universal time does not fit a text with it. -/
theorem formMillis?_eq_none {form : List Part} (other : Part.mark 'Z' ∉ form) (mem : 'Z' ∈ s) :
    formMillis? form s = none := by
  unfold formMillis?
  rw [Option.bind_eq_bind, Option.bind_eq_none_iff]
  rintro ⟨fields, rest⟩ read
  -- The text is not read in whole.
  have left : 'Z' ∈ rest := mem_of_foldlM_take other read mem
  have filled : rest.isEmpty = false := List.isEmpty_eq_false_iff_exists_mem.2 ⟨_, left⟩
  dsimp only
  rw [filled, Bool.false_and]
  rfl

theorem wholeOfText?_eq_none {text : String} (mem : 'Z' ∈ text.toList) :
    Whole.ofText? text = none := by
  have left : 'Z' ∈ (Digits.takeSign text.toList).2 := by
    unfold Digits.takeSign
    split
    · next eq => exact (List.mem_cons.1 (eq ▸ mem)).resolve_left (by decide)
    · next eq => exact (List.mem_cons.1 (eq ▸ mem)).resolve_left (by decide)
    · exact mem
  have digits : (Digits.takeSign text.toList).2.all Char.isDigit = false :=
    List.all_eq_false.2 ⟨_, left, by decide⟩
  unfold Whole.ofText? Digits.value?
  dsimp only
  rw [digits, Bool.not_false, Bool.or_true]
  rfl

/-! ## Texts that begin with a sign -/

/-- The internet form begins with digits. -/
theorem internetMillis?_eq_none {c : Char} (sign : c.isDigit = false) (rest : List Char) :
    internetMillis? (c :: rest) = none := by
  have none : takeNumber 4 4 (c :: rest) = none := by
    simp [takeNumber, sign]
  unfold internetMillis?
  rw [none]
  rfl

/-- A text that begins with a sign and ends with the mark of universal time stands for no
instant. -/
theorem ofText?_eq_none {text : String} {c : Char} {rest : List Char} (sign : c.isDigit = false)
    (eq : text.toList = c :: (rest ++ ['Z'])) : ofText? text = none := by
  have mem : 'Z' ∈ text.toList := by simp [eq]
  have forms : localForms.findSome? (formMillis? · text.toList) = none := by
    rw [List.findSome?_eq_none_iff]
    intro form known
    refine formMillis?_eq_none ?_ mem
    -- Each of the forms has other marks only.
    simp only [localForms, List.mem_cons, List.not_mem_nil, or_false] at known
    rcases known with rfl | rfl | rfl | rfl <;> simp [dateForm, secondForm, minuteForm]
  have internet : internetMillis? text.toList = none := eq ▸ internetMillis?_eq_none sign _
  unfold ofText? textMillis?
  rw [internet, forms, wholeOfText?_eq_none mem]
  rfl

/-! ## Texts of instants -/

/-- Outside of the years 0 to 9999 the text of an instant begins with a sign. -/
theorem toText_of_far {t : Instant} (far : ¬ (0 ≤ t.year ∧ t.year ≤ 9999)) :
    ∃ rest, t.toText.toList = (if t.year < 0 then '-' else '+') :: (rest ++ ['Z']) := by
  have year : yearText t.year =
      (if t.year < 0 then '-' else '+') :: padded 4 t.year.natAbs := if_neg far
  unfold Instant.year at year
  unfold toText secondText
  simp only [year, String.toList_ofList, List.cons_append, List.append_assoc]
  exact ⟨_, by simp only [← List.append_assoc, ← List.cons_append]; rfl⟩

end Instant

/-! ## Stored dates -/

namespace ScalarType

theorem dateOfText_of_far {t : Instant} (far : ¬ (0 ≤ t.year ∧ t.year ≤ 9999)) :
    dateOfText t.toText = .invalid := by
  obtain ⟨rest, text⟩ := Instant.toText_of_far far
  have sign : (if t.year < 0 then '-' else '+').isDigit = false ∧
      Text.isBlank (if t.year < 0 then '-' else '+') = false := by
    split <;> decide
  generalize (if t.year < 0 then '-' else '+') = c at text sign
  -- Neither the sign nor the mark at the end is trimmed away.
  have trimmed : Text.Trimmed t.toText.toList := by
    rw [text]
    constructor
    · rintro _ ⟨⟩
      exact sign.2
    · intro d hd
      obtain rfl : 'Z' = d := by simpa using hd
      decide
  have trim : Text.trim t.toText = t.toText := by
    rw [Text.trim, Text.trimList_eq_self trimmed, String.ofList_toList]
  unfold dateOfText
  rw [trim]
  dsimp only
  rw [Instant.toText_isEmpty, Instant.ofText?_eq_none sign.1 text]
  rfl

/-- A date that coercion has given, from whatever value and under whatever definition, is restored
from its stored form if it lies in the years 0 to 9999. All other dates become invalid. -/
theorem restored_date {p : Property} {default : Option Value} {raw : Value} {t : Instant}
    (accepted : coerce .date p default raw = .date t) (binary : Bool) (q : Property) :
    coerce .date q none (deserialize .date (serialize .date binary (.date t))) =
      if 0 ≤ t.year ∧ t.year ≤ 9999 then .date t else .invalid := by
  have canonical := canonical_coerce .date p default raw
  rw [accepted] at canonical
  split
  · next near =>
    have plain : (Value.date t).hasPlainYear = true := by simpa [Value.hasPlainYear] using near
    have restored := canonical.deserialize_serialize (by decide) (by simp) plain binary
    rw [restored]
    -- What the type keeps under one definition, it keeps under all.
    cases canonical with
    | date whole => exact congrArg dateOr whole
  · next far =>
    have restored : deserialize .date (serialize .date binary (.date t)) = .invalid := by
      unfold serialize deserialize
      exact dateOfText_of_far far
    rw [restored]
    rfl

/-- The first day of the year 10000 is a date, and it becomes invalid. -/
theorem restored_date_far :
    coerce .date {} none (.integer 253402300800000) = .date ⟨253402300800, 0, by decide⟩ ∧
      coerce .date {} none (deserialize .date (serialize .date false
        (.date ⟨253402300800, 0, by decide⟩))) = .invalid := by
  have accepted : coerce .date {} none (.integer 253402300800000) =
      .date ⟨253402300800, 0, by decide⟩ := by decide +kernel
  have far : ¬ (0 ≤ (⟨253402300800, 0, by decide⟩ : Instant).year ∧
      (⟨253402300800, 0, by decide⟩ : Instant).year ≤ 9999) := by decide +kernel
  exact ⟨accepted, (restored_date accepted false {}).trans (if_neg far)⟩

/-- Not every date is restored from its stored form. -/
theorem not_all_dates_restored :
    ¬ ∀ (p : Property) (default : Option Value) (raw : Value) (t : Instant) (binary : Bool),
      coerce .date p default raw = .date t →
      coerce .date p none (deserialize .date (serialize .date binary (.date t))) = .date t := by
  intro restored
  have same := restored {} none (.integer 253402300800000) ⟨253402300800, 0, by decide⟩ false
    (by decide +kernel)
  exact absurd same (by decide +kernel)

end ScalarType

end EntityStore
