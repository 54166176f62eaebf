import EntityStore.Proofs.Text.Blank
import EntityStore.Value

set_option autoImplicit false

/-! # Reading back the text of an identifier

The text of an identifier stands for it (`Uuid.ofText?_toText`), and so do all its stored forms
(`Value.identity?_string`, `Value.identity?_binary`). -/

namespace EntityStore

namespace Uuid

/-! ## Hyphens -/

/-- Hyphens between groups of the right lengths are found, and can be taken out. -/
theorem unhyphenate_groups {a b c d e : List Char} (ha : a.length = 8) (hb : b.length = 4)
    (hc : c.length = 4) (hd : d.length = 4) (he : e.length = 12) :
    isHyphenated (a ++ '-' :: (b ++ '-' :: (c ++ '-' :: (d ++ '-' :: e)))) = true ∧
      unhyphenate (a ++ '-' :: (b ++ '-' :: (c ++ '-' :: (d ++ '-' :: e)))) =
        a ++ (b ++ (c ++ (d ++ e))) := by
  constructor
  · simp [isHyphenated, ha, hb, hc, hd, he]
  · simp (disch := omega) [unhyphenate, List.drop_append, ha, hb, hc, hd, List.drop_eq_nil_of_le]

theorem hyphenate_eq (s : List Char) : hyphenate s = s.take 8 ++ '-' :: ((s.drop 8).take 4 ++
    '-' :: ((s.drop 12).take 4 ++ '-' :: ((s.drop 16).take 4 ++ '-' :: s.drop 20))) := by
  simp [hyphenate]

theorem append_groups (s : List Char) : s.take 8 ++ ((s.drop 8).take 4 ++ ((s.drop 12).take 4 ++
    ((s.drop 16).take 4 ++ s.drop 20))) = s := by
  have step (n : Nat) : (s.drop n).take 4 ++ s.drop (n + 4) = s.drop n := by
    rw [← List.drop_drop, List.take_append_drop]
  rw [step 16, step 12, step 8, List.take_append_drop]

theorem length_hyphenate {s : List Char} (h : s.length = 32) : (hyphenate s).length = 36 := by
  rw [hyphenate_eq]
  simp only [List.length_append, List.length_cons, List.length_take, List.length_drop]
  omega

/-- Hyphens between 32 digits are found, and can be taken out. -/
theorem unhyphenate_hyphenate {s : List Char} (h : s.length = 32) :
    isHyphenated (hyphenate s) = true ∧ unhyphenate (hyphenate s) = s := by
  obtain ⟨found, out⟩ := @unhyphenate_groups (s.take 8) ((s.drop 8).take 4) ((s.drop 12).take 4)
    ((s.drop 16).take 4) (s.drop 20) (by simp; omega) (by simp; omega) (by simp; omega)
    (by simp; omega) (by simp; omega)
  rw [append_groups] at out
  rw [hyphenate_eq]
  exact ⟨found, out⟩

/-! ## Text -/

theorem length_digits (u : Uuid) : u.digits.length = 32 := length_hexText 32 u.number

/-- Reading the text of an identifier gives it back. -/
theorem ofText?_toText (u : Uuid) : ofText? u.toText = some u := by
  obtain ⟨found, out⟩ := unhyphenate_hyphenate u.length_digits
  have value : hexValue? u.digits = some u.number := by
    have bound : 16 ^ 32 = 2 ^ 128 := by decide
    rw [digits, hexValue?_hexText, bound, Nat.mod_eq_of_lt u.isLt]
  have read : ofDigits? u.digits = some u := by
    rw [ofDigits?, if_pos u.length_digits, value]
    exact congrArg some (ofNat_eq (Nat.mod_eq_of_lt u.isLt))
  -- Hyphens make the text too long to be read as plain digits.
  have plain : ofDigits? (hyphenate u.digits) = none :=
    if_neg (by rw [length_hyphenate u.length_digits]; decide)
  have hyphenated : ofHyphenated? (hyphenate u.digits) = some u := by
    rw [ofHyphenated?, if_pos found, out, read]
  unfold ofText? toText
  rw [String.toList_ofList]
  dsimp only
  rw [plain, hyphenated]
  rfl

theorem toText_injective {id other : Uuid} (h : id.toText = other.toText) : id = other := by
  have read := ofText?_toText id
  rw [h, ofText?_toText other] at read
  exact (Option.some.inj read).symm

theorem mem_hexText {width n : Nat} {c : Char} (h : c ∈ hexText width n) :
    ∃ d < 16, c = hexChar d := by
  induction width generalizing n with
  | zero => exact absurd h (by simp [hexText])
  | succ width ih =>
    rcases List.mem_append.1 h with h | h
    · exact ih h
    · exact ⟨n % 16, Nat.mod_lt n (by decide), List.mem_singleton.1 h⟩

theorem isBlank_of_mem_digits {u : Uuid} {c : Char} (h : c ∈ u.digits) :
    Text.isBlank c = false := by
  have digit : ∀ d < 16, Text.isBlank (hexChar d) = false := by decide
  obtain ⟨d, hd, rfl⟩ := mem_hexText h
  exact digit d hd

/-- The text consists of digits and hyphens. -/
theorem mem_toText {u : Uuid} {c : Char} (h : c ∈ u.toText.toList) :
    c = '-' ∨ ∃ d < 16, c = hexChar d := by
  rw [toText, String.toList_ofList, hyphenate_eq] at h
  simp only [List.mem_append, List.mem_cons] at h
  rcases h with h | rfl | h | rfl | h | rfl | h | rfl | h
  · exact .inr (mem_hexText (List.mem_of_mem_take h))
  · exact .inl rfl
  · exact .inr (mem_hexText (List.mem_of_mem_drop (List.mem_of_mem_take h)))
  · exact .inl rfl
  · exact .inr (mem_hexText (List.mem_of_mem_drop (List.mem_of_mem_take h)))
  · exact .inl rfl
  · exact .inr (mem_hexText (List.mem_of_mem_drop (List.mem_of_mem_take h)))
  · exact .inl rfl
  · exact .inr (mem_hexText (List.mem_of_mem_drop h))

theorem not_mem_toText {c : Char} (hyphen : c ≠ '-') (digit : ∀ d < 16, c ≠ hexChar d) (u : Uuid) :
    c ∉ u.toText.toList := by
  intro mem
  rcases mem_toText mem with eq | ⟨d, hd, eq⟩
  · exact hyphen eq
  · exact digit d hd eq

theorem length_toText (u : Uuid) : u.toText.toList.length = 36 := by
  rw [toText, String.toList_ofList, length_hyphenate u.length_digits]

/-- There are no blanks around the text of an identifier. -/
theorem trim_toText (u : Uuid) : Text.trim u.toText = u.toText := by
  have first : u.digits.take 8 ≠ [] := List.ne_nil_of_length_pos (by simp [length_digits])
  have last : (u.digits.drop 20).reverse ≠ [] :=
    List.ne_nil_of_length_pos (by simp [length_digits])
  -- The text begins and ends with a digit.
  have trimmed : Text.Trimmed (hyphenate u.digits) := by
    rw [hyphenate_eq]
    constructor
    · intro c hc
      rw [List.head?_append_of_ne_nil _ first] at hc
      exact isBlank_of_mem_digits (List.mem_of_mem_take (List.mem_of_mem_head? hc))
    · intro c hc
      simp only [List.reverse_append, List.reverse_cons, List.append_assoc] at hc
      rw [List.head?_append_of_ne_nil _ last] at hc
      have member := List.mem_reverse.1 (List.mem_of_mem_head? hc)
      exact isBlank_of_mem_digits (List.mem_of_mem_drop member)
  rw [toText, Text.trim, String.toList_ofList, Text.trimList_eq_self trimmed]

end Uuid

namespace Value

theorem identity?_string (u : Uuid) : (Value.string u.toText).identity? = some u := by
  rw [identity?, Uuid.trim_toText, Uuid.ofText?_toText]

theorem identity?_binary (u : Uuid) : (Value.binary u.toBytes).identity? = some u :=
  Uuid.ofBytes?_toBytes u

end Value

end EntityStore
