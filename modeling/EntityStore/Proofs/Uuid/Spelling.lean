import EntityStore.Proofs.Uuid

set_option autoImplicit false

/-! # The written forms of an identifier

A text stands for an identifier if and only if it is one of its written forms (`Spells`,
`ofText?_eq_some_iff`): its 32 digits in any case, with or without hyphens, and the form with
hyphens also in braces or after `urn:uuid:`. Only one of them is the text of the identifier. -/

namespace EntityStore

/-! ## Digits -/

/-- The value of a digit by its code point. -/
theorem CodeSet.hexDigit?_eq (c : Char) : hexDigit? c =
    if 48 ≤ c.toNat ∧ c.toNat ≤ 57 then some (c.toNat - 48)
    else if 97 ≤ c.toNat ∧ c.toNat ≤ 102 then some (c.toNat - 87)
    else if 65 ≤ c.toNat ∧ c.toNat ≤ 70 then some (c.toNat - 55) else none := by
  simp only [hexDigit?, Char.le_def, UInt32.le_iff_toNat_le]
  rfl

theorem CodeSet.hexDigit?_toLower (c : Char) : hexDigit? c.toLower = hexDigit? c := by
  rcases Text.toLower_cases c with same | ⟨low, high, lower⟩
  · rw [same]
  · have capital : c.toNat + 32 - 87 = c.toNat - 55 := by omega
    rw [hexDigit?_eq, hexDigit?_eq, lower, capital]
    split_ifs <;> first | rfl | omega

namespace Uuid

/-- A digit in any case is the small one of its value. -/
theorem toLower_of_hexDigit? {c : Char} {d : Nat} (h : CodeSet.hexDigit? c = some d) :
    d < 16 ∧ c.toLower = hexChar d := by
  have digits : ∀ d < 10, (Char.ofNat (48 + d)).toLower = hexChar d := by decide
  have letters : ∀ d < 16, 10 ≤ d → (Char.ofNat (87 + d)).toLower = hexChar d := by decide
  have capitals : ∀ d < 16, 10 ≤ d → (Char.ofNat (55 + d)).toLower = hexChar d := by decide
  have code {start : Nat} (low : start ≤ c.toNat) : Char.ofNat (start + (c.toNat - start)) = c := by
    rw [Nat.add_sub_of_le low, Char.ofNat_toNat]
  rw [CodeSet.hexDigit?_eq] at h
  split_ifs at h with digit letter capital <;> obtain rfl := Option.some.inj h
  · have lower := digits (c.toNat - 48) (by omega)
    rw [code digit.1] at lower
    exact ⟨by omega, lower⟩
  · have lower := letters (c.toNat - 87) (by omega) (by omega)
    rw [code (by omega)] at lower
    exact ⟨by omega, lower⟩
  · have lower := capitals (c.toNat - 55) (by omega) (by omega)
    rw [code (by omega)] at lower
    exact ⟨by omega, lower⟩

theorem hexValue?_append (s : List Char) (c : Char) : hexValue? (s ++ [c]) =
    (hexValue? s).bind fun n => (CodeSet.hexDigit? c).map (n * 16 + ·) := by
  simp [hexValue?, List.foldlM_append]

theorem hexValue?_map_toLower (s : List Char) : hexValue? (s.map Char.toLower) = hexValue? s := by
  simp only [hexValue?, List.foldlM_map, CodeSet.hexDigit?_toLower]

/-- Digits in any case are the small ones of their value. -/
theorem map_toLower_of_hexValue? {s : List Char} {n : Nat} (h : hexValue? s = some n) :
    s.map Char.toLower = hexText s.length n := by
  induction s using List.reverseRecOn generalizing n with
  | nil => rfl
  | append_singleton s c ih =>
    rw [hexValue?_append, Option.bind_eq_some_iff] at h
    obtain ⟨m, value, digit⟩ := h
    obtain ⟨d, hd, rfl⟩ := Option.map_eq_some_iff.1 digit
    obtain ⟨small, lower⟩ := toLower_of_hexDigit? hd
    have front : (m * 16 + d) / 16 = m := by omega
    have last : (m * 16 + d) % 16 = d := by omega
    rw [List.map_append, List.length_append, List.length_singleton, hexText, front, last, ih value,
      List.map_singleton, lower]

/-- 32 digits stand for the identifier that has them, in any case. -/
theorem ofDigits?_eq_some_iff {s : List Char} {u : Uuid} :
    ofDigits? s = some u ↔ s.map Char.toLower = u.digits := by
  have bound : 16 ^ 32 = 2 ^ 128 := by decide
  constructor
  · intro h
    unfold ofDigits? at h
    split at h
    · next length =>
      obtain ⟨n, value, rfl⟩ := Option.map_eq_some_iff.1 h
      have digits := map_toLower_of_hexValue? value
      rw [length] at digits
      -- Only the last 32 digits of the value are read.
      have same : some n = some (n % 2 ^ 128) := by
        rw [← bound, ← hexValue?_hexText, ← digits, hexValue?_map_toLower, value]
      exact digits.trans (congrArg (hexText 32) (Option.some.inj same))
    · exact absurd h (by simp)
  · intro h
    have length : s.length = 32 := by
      rw [← u.length_digits, ← h, List.length_map]
    have value : hexValue? s = some u.number := by
      rw [← hexValue?_map_toLower, h, digits, hexValue?_hexText, bound, Nat.mod_eq_of_lt u.isLt]
    rw [ofDigits?, if_pos length, value]
    exact congrArg some (ofNat_eq (Nat.mod_eq_of_lt u.isLt))

/-! ## Hyphens -/

theorem hyphenate_groups {a b c d e : List Char} (ha : a.length = 8) (hb : b.length = 4)
    (hc : c.length = 4) (hd : d.length = 4) :
    hyphenate (a ++ (b ++ (c ++ (d ++ e)))) =
      a ++ '-' :: (b ++ '-' :: (c ++ '-' :: (d ++ '-' :: e))) := by
  rw [hyphenate_eq]
  simp (disch := omega) [List.drop_append, ha, hb, hc, List.drop_eq_nil_of_le]

theorem drop_of_getElem? {s : List Char} {n : Nat} {c : Char} (h : s[n]? = some c) :
    s.drop n = c :: s.drop (n + 1) := by
  obtain ⟨within, rfl⟩ := List.getElem?_eq_some_iff.1 h
  exact List.drop_eq_getElem_cons within

/-- A text with hyphens in their places is the one of the 32 characters without them. -/
theorem hyphenate_unhyphenate {s : List Char} (h : isHyphenated s = true) :
    (unhyphenate s).length = 32 ∧ hyphenate (unhyphenate s) = s := by
  simp only [isHyphenated, Bool.and_eq_true, beq_iff_eq] at h
  obtain ⟨⟨⟨⟨length, first⟩, second⟩, third⟩, fourth⟩ := h
  refine ⟨by simp [unhyphenate, length], ?_⟩
  have group (n : Nat) (hyphen : s[n + 4]? = some '-') :
      (s.drop n).take 4 ++ '-' :: s.drop (n + 5) = s.drop n := by
    rw [← drop_of_getElem? hyphen, ← List.drop_drop, List.take_append_drop]
  have groups := hyphenate_groups (a := s.take 8) (b := (s.drop 9).take 4)
    (c := (s.drop 14).take 4) (d := (s.drop 19).take 4) (e := s.drop 24) (by simp [length])
    (by simp [length]) (by simp [length]) (by simp [length])
  rw [group 19 fourth, group 14 third, group 9 second, ← drop_of_getElem? first,
    List.take_append_drop] at groups
  simpa [unhyphenate] using groups

theorem map_hyphenate (s : List Char) :
    (hyphenate s).map Char.toLower = hyphenate (s.map Char.toLower) := by
  have hyphen : Char.toLower '-' = '-' := by decide
  simp [hyphenate, List.map_take, List.map_drop, hyphen]

theorem toLower_eq_hyphen_iff {c : Char} : c.toLower = '-' ↔ c = '-' := by
  constructor
  · intro h
    rcases Text.toLower_cases c with same | ⟨low, -, lower⟩
    · exact same ▸ h
    · -- A small letter is no hyphen.
      rw [h] at lower
      exact absurd lower (by simp; omega)
  · rintro rfl
    decide

theorem isHyphenated_map_toLower (s : List Char) :
    isHyphenated (s.map Char.toLower) = isHyphenated s := by
  have place (n : Nat) : (s.map Char.toLower)[n]? = some '-' ↔ s[n]? = some '-' := by
    rw [List.getElem?_map]
    cases s[n]? <;> simp [toLower_eq_hyphen_iff]
  simp only [isHyphenated, List.length_map, Bool.beq_eq_decide_eq, place]

theorem unhyphenate_map_toLower (s : List Char) :
    unhyphenate (s.map Char.toLower) = (unhyphenate s).map Char.toLower := by
  simp [unhyphenate, List.map_take, List.map_drop]

/-- A text with hyphens stands for the identifier whose text it is in lower case. -/
theorem ofHyphenated?_eq_some_iff {s : List Char} {u : Uuid} :
    ofHyphenated? s = some u ↔ s.map Char.toLower = u.toText.toList := by
  rw [toText, String.toList_ofList]
  constructor
  · intro h
    unfold ofHyphenated? at h
    split at h
    · next hyphens =>
      obtain ⟨-, eq⟩ := hyphenate_unhyphenate hyphens
      rw [← ofDigits?_eq_some_iff.1 h, ← map_hyphenate, eq]
    · exact absurd h (by simp)
  · intro h
    obtain ⟨hyphens, digits⟩ := unhyphenate_hyphenate u.length_digits
    rw [← h, isHyphenated_map_toLower] at hyphens
    rw [← h, unhyphenate_map_toLower] at digits
    rw [ofHyphenated?, if_pos hyphens, ofDigits?_eq_some_iff, digits]

/-! ## All forms -/

/-- The written forms of an identifier. -/
inductive Spells (u : Uuid) : List Char → Prop
  | plain {s : List Char} (digits : s.map Char.toLower = u.digits) : Spells u s
  | hyphenated {s : List Char} (text : s.map Char.toLower = u.toText.toList) : Spells u s
  | braced {s : List Char} (text : s.map Char.toLower = u.toText.toList) :
      Spells u ('\x7b' :: (s ++ ['\x7d']))
  | urn {start s : List Char} (name : start.map Char.toLower = "urn:uuid:".toList)
      (text : s.map Char.toLower = u.toText.toList) : Spells u (start ++ s)

theorem inBraces?_eq_some_iff {s t : List Char} :
    inBraces? s = some t ↔ s = '\x7b' :: (t ++ ['\x7d']) := by
  unfold inBraces?
  constructor
  · intro h
    split at h
    · next braces =>
      obtain ⟨rest, rfl⟩ := List.head?_eq_some_iff.1 braces.1
      obtain ⟨front, eq⟩ := List.getLast?_eq_some_iff.1 braces.2
      obtain rfl := Option.some.inj h
      -- The two braces are not the same one.
      rcases front with _ | ⟨c, front⟩
      · exact absurd eq (by simp)
      · obtain ⟨-, rfl⟩ := List.cons.inj eq
        simp
    · exact absurd h (by simp)
  · rintro rfl
    have last : ('\x7b' :: (t ++ ['\x7d'])).getLast? = some '\x7d' := by
      rw [← List.cons_append, List.getLast?_concat]
    rw [last]
    simp

theorem afterUrn?_eq_some_iff {s t : List Char} : afterUrn? s = some t ↔
    ∃ start, start.map Char.toLower = "urn:uuid:".toList ∧ s = start ++ t := by
  have name : ['u', 'r', 'n', ':', 'u', 'u', 'i', 'd', ':'] = "urn:uuid:".toList := by decide
  unfold afterUrn?
  rw [name]
  constructor
  · intro h
    split at h
    · next start =>
      obtain rfl := Option.some.inj h
      exact ⟨s.take 9, start, (List.take_append_drop 9 s).symm⟩
    · exact absurd h (by simp)
  · rintro ⟨start, lower, rfl⟩
    have length : start.length = 9 := by rw [← List.length_map (f := Char.toLower), lower]; rfl
    rw [List.take_left' length, List.drop_left' length, if_pos lower]

theorem length_of_ofDigits? {s : List Char} {u : Uuid} (h : ofDigits? s = some u) :
    s.length = 32 := by
  rw [← u.length_digits, ← ofDigits?_eq_some_iff.1 h, List.length_map]

theorem length_of_ofHyphenated? {s : List Char} {u : Uuid} (h : ofHyphenated? s = some u) :
    s.length = 36 := by
  rw [← u.length_toText, ← ofHyphenated?_eq_some_iff.1 h, List.length_map]

theorem length_of_braces {s : List Char} {u : Uuid}
    (h : (inBraces? s).bind ofHyphenated? = some u) : s.length = 38 := by
  obtain ⟨t, braces, text⟩ := Option.bind_eq_some_iff.1 h
  rw [inBraces?_eq_some_iff.1 braces]
  simp [length_of_ofHyphenated? text]

/-- A text stands for an identifier if it is one of its written forms. -/
theorem ofText?_eq_some_iff {text : String} {u : Uuid} :
    ofText? text = some u ↔ Spells u text.toList := by
  unfold ofText?
  dsimp only
  generalize text.toList = s
  simp only [Option.orElse_eq_orElse, Option.orElse_eq_or, Option.or_eq_some_iff]
  constructor
  · rintro (plain | ⟨-, hyphenated | ⟨-, braced | ⟨-, urn⟩⟩⟩)
    · exact .plain (ofDigits?_eq_some_iff.1 plain)
    · exact .hyphenated (ofHyphenated?_eq_some_iff.1 hyphenated)
    · obtain ⟨t, braces, text⟩ := Option.bind_eq_some_iff.1 braced
      rw [inBraces?_eq_some_iff.1 braces]
      exact .braced (ofHyphenated?_eq_some_iff.1 text)
    · obtain ⟨t, start, text⟩ := Option.bind_eq_some_iff.1 urn
      obtain ⟨start, name, rfl⟩ := afterUrn?_eq_some_iff.1 start
      exact .urn name (ofHyphenated?_eq_some_iff.1 text)
  · intro spells
    -- The forms have different lengths, so no other one is read.
    have absent {o : Option Uuid} {n : Nat} (length : ∀ v, o = some v → s.length = n)
        (other : s.length ≠ n) : o = none :=
      Option.eq_none_iff_forall_ne_some.2 fun v h => other (length v h)
    have noDigits := absent (o := ofDigits? s) fun _ => length_of_ofDigits?
    have noHyphens := absent (o := ofHyphenated? s) fun _ => length_of_ofHyphenated?
    have noBraces := absent (o := (inBraces? s).bind ofHyphenated?) fun _ => length_of_braces
    cases spells with
    | plain digits => exact .inl (ofDigits?_eq_some_iff.2 digits)
    | hyphenated text =>
      have read := ofHyphenated?_eq_some_iff.2 text
      have length := length_of_ofHyphenated? read
      exact .inr ⟨noDigits (by omega), .inl read⟩
    | @braced t text =>
      have read := ofHyphenated?_eq_some_iff.2 text
      have length : ('\x7b' :: (t ++ ['\x7d'])).length = 38 := by
        simp [length_of_ofHyphenated? read]
      refine .inr ⟨noDigits (by omega), .inr ⟨noHyphens (by omega), .inl ?_⟩⟩
      rw [inBraces?_eq_some_iff.2 rfl, Option.bind_some, read]
    | @urn start t name text =>
      have read := ofHyphenated?_eq_some_iff.2 text
      have length : (start ++ t).length = 45 := by
        rw [List.length_append, length_of_ofHyphenated? read,
          ← List.length_map (f := Char.toLower), name]
        rfl
      refine .inr ⟨noDigits (by omega), .inr ⟨noHyphens (by omega), .inr ⟨noBraces (by omega), ?_⟩⟩⟩
      rw [afterUrn?_eq_some_iff.2 ⟨start, name, rfl⟩, Option.bind_some, read]

/-! ## The form of the text of an identifier -/

theorem hexValue?_isSome {s : List Char}
    (digits : ∀ c ∈ s, (CodeSet.hexDigit? c).isSome = true) : (hexValue? s).isSome = true := by
  induction s using List.reverseRecOn with
  | nil => rfl
  | append_singleton s c ih =>
    obtain ⟨n, value⟩ := Option.isSome_iff_exists.1 (ih fun d hd => digits d (by simp [hd]))
    obtain ⟨d, digit⟩ := Option.isSome_iff_exists.1 (digits c (by simp))
    rw [hexValue?_append, value, digit]
    rfl

/-- The texts of identifiers have their form in any case, and no others do. -/
theorem isCanonicalText_iff {text : String} : isCanonicalText text = true ↔
    ∃ u : Uuid, text.toList.map Char.toLower = u.toText.toList := by
  unfold isCanonicalText
  rw [Bool.and_eq_true, List.all_eq_true]
  constructor
  · rintro ⟨hyphens, digits⟩
    obtain ⟨n, value⟩ := Option.isSome_iff_exists.1 (hexValue?_isSome digits)
    refine ⟨ofNat n, ofHyphenated?_eq_some_iff.1 ?_⟩
    rw [ofHyphenated?, if_pos hyphens, ofDigits?, if_pos (hyphenate_unhyphenate hyphens).1, value]
    rfl
  · rintro ⟨u, lower⟩
    rw [toText, String.toList_ofList] at lower
    obtain ⟨hyphens, out⟩ := unhyphenate_hyphenate u.length_digits
    rw [← lower, isHyphenated_map_toLower] at hyphens
    rw [← lower, unhyphenate_map_toLower] at out
    refine ⟨hyphens, fun c hc => ?_⟩
    have small : c.toLower ∈ u.digits := out ▸ List.mem_map_of_mem hc
    obtain ⟨d, hd, eq⟩ := mem_hexText small
    rw [← CodeSet.hexDigit?_toLower, eq, hexDigit?_hexChar hd]
    rfl

/-- The text of an identifier has no capital letters. -/
theorem map_toLower_toText (u : Uuid) : u.toText.toList.map Char.toLower = u.toText.toList := by
  have small : ∀ d < 16, (hexChar d).toLower = hexChar d := by decide
  refine Eq.trans (List.map_congr_left fun c hc => ?_) (List.map_id _)
  rcases mem_toText hc with rfl | ⟨d, hd, rfl⟩
  · exact toLower_eq_hyphen_iff.2 rfl
  · exact small d hd

end Uuid

end EntityStore
