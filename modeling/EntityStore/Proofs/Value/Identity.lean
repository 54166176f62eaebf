import EntityStore.Proofs.Uuid.Spelling
import Mathlib.Data.String.Basic

set_option autoImplicit false

/-! # Identifiers as values

An identifier is stored as its 16 bytes or as its text, and each of them gives it back, the text
also in capital letters and between blanks (`Uuid.RoundTrips`). What has the shape of a stored
identifier describes one, and its text in lower case is that of the identifier
(`Value.identity_codec`). The shape of texts is told by the places of their bytes
(`Uuid.IsDashed`). -/

namespace EntityStore

/-! ## Blanks around a text -/

theorem Text.trimList_between {before s after : List Char} (front : ∀ c ∈ before, isBlank c = true)
    (back : ∀ c ∈ after, isBlank c = true) (plain : ∀ c ∈ s, isBlank c = false) :
    trimList (before ++ s ++ after) = s := by
  have fronted {t : List Char} (h : t = s ∨ t = s.reverse) : trimFront t = t := by
    refine trimFront_eq_self.2 fun c hc => plain c ?_
    have member := List.mem_of_mem_head? hc
    rcases h with rfl | rfl
    · exact member
    · exact List.mem_reverse.1 member
  have dropped {blanks t : List Char} (blank : ∀ c ∈ blanks, isBlank c = true) :
      trimFront (blanks ++ t) = trimFront t := List.dropWhile_append_of_pos blank
  rcases s with _ | ⟨c, s⟩
  · -- Nothing but blanks is left out altogether.
    have all : trimFront (before ++ [] ++ after) = [] :=
      List.dropWhile_eq_nil_iff.2 (by simpa [or_imp, forall_and] using ⟨front, back⟩)
    rw [trimList, all]
    rfl
  · have start : trimFront (before ++ c :: s ++ after) = c :: s ++ after := by
      rw [List.append_assoc, dropped front, List.cons_append]
      exact trimFront_eq_self.2 fun d hd => plain d (by simp_all)
    rw [trimList, start, List.reverse_append, dropped (by simpa using back), fronted (.inr rfl),
      List.reverse_reverse]

namespace Uuid

/-! ## The shape of the text -/

/-- Whether a character may stand at a place of the text of an identifier. -/
def FitsAt (place : Nat) (c : Char) : Prop :=
  if place ∈ [8, 13, 18, 23] then c = '-' else (CodeSet.hexDigit? c).isSome = true

/-- A text of 36 bytes with hyphens in their places and hexadecimal digits in all others. The place
of a character is the number of bytes before it. -/
def IsDashed (text : String) : Prop :=
  text.utf8ByteSize = 36 ∧ ∀ before c after, text.toList = before ++ c :: after →
    FitsAt (String.utf8Len before) c

/-- What fits is a single byte. -/
theorem FitsAt.utf8Size_eq_one {place : Nat} {c : Char} (h : FitsAt place c) :
    c.utf8Size = 1 := by
  rw [Char.utf8Size_eq_one_iff, UInt32.le_iff_toNat_le]
  unfold FitsAt at h
  split at h
  · rw [h]
    decide
  · obtain ⟨d, digit⟩ := Option.isSome_iff_exists.1 h
    rw [CodeSet.hexDigit?_eq] at digit
    have code : c.toNat ≤ 127 := by split_ifs at digit <;> omega
    exact code

theorem utf8Len_eq_length {s : List Char} (single : ∀ c ∈ s, c.utf8Size = 1) :
    String.utf8Len s = s.length := by
  induction s with
  | nil => rfl
  | cons c s ih =>
    obtain ⟨hc, hs⟩ := List.forall_mem_cons.1 single
    rw [String.utf8Len_cons, ih hs, hc, List.length_cons]

/-- The characters that are left without hyphens are those in the other places. -/
theorem mem_unhyphenate_iff {s : List Char} {c : Char} :
    c ∈ unhyphenate s ↔ ∃ i ∉ [8, 13, 18, 23], s[i]? = some c := by
  have group (start n : Nat) :
      c ∈ (s.drop start).take n ↔ ∃ i < n, s[start + i]? = some c := by
    simp only [List.mem_iff_getElem?, List.getElem?_take, List.getElem?_drop]
    simp [Option.ite_none_right_eq_some]
  have first := group 0 8
  have last : c ∈ s.drop 24 ↔ ∃ i, s[24 + i]? = some c := by
    simp only [List.mem_iff_getElem?, List.getElem?_drop]
  rw [List.drop_zero] at first
  simp only [unhyphenate, List.mem_append, first, group, last]
  constructor
  · rintro ((((⟨i, hi, h⟩ | ⟨i, hi, h⟩) | ⟨i, hi, h⟩) | ⟨i, hi, h⟩) | ⟨i, h⟩) <;>
      exact ⟨_, by simp; omega, h⟩
  · rintro ⟨i, other, h⟩
    simp only [List.mem_cons, List.not_mem_nil, or_false, not_or] at other
    have place (start : Nat) (le : start ≤ i) : s[start + (i - start)]? = some c := by
      rwa [Nat.add_sub_of_le le]
    rcases Nat.lt_or_ge i 8 with h8 | h8
    · exact .inl (.inl (.inl (.inl ⟨i, h8, by rwa [Nat.zero_add]⟩)))
    rcases Nat.lt_or_ge i 13 with h13 | h13
    · exact .inl (.inl (.inl (.inr ⟨i - 9, by omega, place 9 (by omega)⟩)))
    rcases Nat.lt_or_ge i 18 with h18 | h18
    · exact .inl (.inl (.inr ⟨i - 14, by omega, place 14 (by omega)⟩))
    rcases Nat.lt_or_ge i 23 with h23 | h23
    · exact .inl (.inr ⟨i - 19, by omega, place 19 (by omega)⟩)
    · exact .inr ⟨i - 24, place 24 (by omega)⟩

/-- A text has the shape if every character fits its place among the characters. -/
theorem isCanonicalText_iff_fitsAt {text : String} : isCanonicalText text = true ↔
    text.toList.length = 36 ∧ ∀ i c, text.toList[i]? = some c → FitsAt i c := by
  unfold isCanonicalText
  dsimp only
  generalize text.toList = s
  simp only [isHyphenated, Bool.and_eq_true, beq_iff_eq, List.all_eq_true, mem_unhyphenate_iff]
  constructor
  · rintro ⟨⟨⟨⟨⟨length, first⟩, second⟩, third⟩, fourth⟩, digits⟩
    refine ⟨length, fun i c found => ?_⟩
    unfold FitsAt
    split
    · next hyphen =>
      have same {n : Nat} (there : s[n]? = some '-') (eq : i = n) : c = '-' := by
        rw [eq, there] at found
        exact (Option.some.inj found).symm
      simp only [List.mem_cons, List.not_mem_nil, or_false] at hyphen
      rcases hyphen with eq | eq | eq | eq
      · exact same first eq
      · exact same second eq
      · exact same third eq
      · exact same fourth eq
    · next other => exact digits c ⟨i, other, found⟩
  · rintro ⟨length, fits⟩
    have hyphen (n : Nat) (place : n ∈ [8, 13, 18, 23]) : s[n]? = some '-' := by
      have within : n < s.length := by
        rw [length]
        revert n
        decide
      have found : s[n]? = some s[n] := List.getElem?_eq_getElem within
      have fit := fits n _ found
      rw [FitsAt, if_pos place] at fit
      rw [found, fit]
    refine ⟨⟨⟨⟨⟨length, hyphen 8 ?_⟩, hyphen 13 ?_⟩, hyphen 18 ?_⟩, hyphen 23 ?_⟩, ?_⟩
    · decide
    · decide
    · decide
    · decide
    · rintro c ⟨i, other, found⟩
      have fit := fits i c found
      rwa [FitsAt, if_neg other] at fit

/-- Whether places are counted in characters or in bytes makes no difference to the shape. -/
theorem isCanonicalText_iff_isDashed {text : String} :
    isCanonicalText text = true ↔ IsDashed text := by
  rw [isCanonicalText_iff_fitsAt, IsDashed, ← String.utf8Len_toList]
  generalize text.toList = s
  -- Either way all characters are single bytes, so that bytes and characters count alike.
  have single {place : List Char → Nat}
      (fits : ∀ before c after, s = before ++ c :: after → FitsAt (place before) c) :
      ∀ t, t <+: s → String.utf8Len t = t.length := by
    intro t start
    refine utf8Len_eq_length fun c hc => ?_
    obtain ⟨before, after, eq⟩ := List.append_of_mem (start.subset hc)
    exact (fits before c after eq).utf8Size_eq_one
  constructor
  · rintro ⟨length, fits⟩
    have fits' : ∀ before c after, s = before ++ c :: after → FitsAt before.length c := by
      rintro before c after rfl
      exact fits before.length c (by simp)
    have count := single fits'
    refine ⟨(count s List.prefix_rfl).trans length, fun before c after eq => ?_⟩
    rw [count before ⟨c :: after, eq.symm⟩]
    exact fits' before c after eq
  · rintro ⟨size, fits⟩
    have count := single fits
    refine ⟨(count s List.prefix_rfl).symm.trans size, fun i c found => ?_⟩
    have eq : s = s.take i ++ c :: s.drop (i + 1) := by
      rw [← drop_of_getElem? found, List.take_append_drop]
    have place : (s.take i).length = i := by
      rw [List.length_take]
      have within := (List.getElem?_eq_some_iff.1 found).1
      omega
    have fit := fits _ _ _ eq
    rwa [count _ (List.take_prefix i s), place] at fit

/-! ## Bytes -/

theorem byteList_byteValue (bytes : List UInt8) :
    byteList bytes.length (byteValue bytes) = bytes := by
  induction bytes using List.reverseRecOn with
  | nil => rfl
  | append_singleton bytes b ih =>
    have value : byteValue (bytes ++ [b]) = byteValue bytes * 256 + b.toNat := by
      simp [byteValue, List.foldl_append]
    have small : b.toNat < 256 := b.toNat_lt
    have front : (byteValue bytes * 256 + b.toNat) / 256 = byteValue bytes := by omega
    have last : (byteValue bytes * 256 + b.toNat) % 256 = b.toNat := by omega
    rw [List.length_append, List.length_singleton, byteList, value, front, last, ih,
      UInt8.ofNat_toNat]

/-- Every 16 bytes are those of an identifier. -/
theorem exists_toBytes {bytes : List UInt8} (sixteen : bytes.length = 16) :
    ∃ id : Uuid, id.toBytes = bytes := by
  have all := byteList_byteValue bytes
  rw [sixteen] at all
  have small : byteValue bytes < 2 ^ 128 := by
    have value := byteValue_byteList 16 (byteValue bytes)
    rw [all] at value
    rw [value]
    exact Nat.mod_lt _ (by decide)
  exact ⟨⟨byteValue bytes, small⟩, all⟩

/-! ## What gives an identifier back -/

/-- The bytes of an identifier and its text, whose form is fixed, give it back. -/
structure RoundTrips (id : Uuid) (bytes : List UInt8) : Prop where
  bytes_eq : id.toBytes = bytes
  /-- The text has 36 characters, and none of them is a capital letter. -/
  length : id.toText.length = 36
  lower : id.toText.toLower = id.toText
  /-- It has the shape, so that it is taken for an identifier as it stands. -/
  dashed : IsDashed id.toText
  isIdentity : (Value.string id.toText).isIdentity = true
  parsed : ofText? id.toText = some id
  native : (Value.uuid id).identity? = some id
  binary : (Value.binary bytes).identity? = some id
  /-- The text in any case of its letters, and with any blanks around it, describes the
  identifier. -/
  spelled : ∀ before text after : String, (∀ c ∈ before.toList, Text.isBlank c = true) →
    (∀ c ∈ after.toList, Text.isBlank c = true) → text.toLower = id.toText →
    (Value.string (before ++ text ++ after)).identity? = some id
  /-- One of the cases is that of capital letters. -/
  upper : id.toText.toUpper.toLower = id.toText

theorem toLower_eq_iff {s t : String} :
    s.toLower = t ↔ s.toList.map Char.toLower = t.toList := by
  change s.map Char.toLower = t ↔ _
  rw [← String.toList_inj, String.toList_map]

/-- No character of the text of an identifier is blank, in whatever case it is written. -/
theorem isBlank_of_toLower_eq {text : String} {id : Uuid} (h : text.toLower = id.toText) :
    ∀ c ∈ text.toList, Text.isBlank c = false := by
  have digit : ∀ d < 16, Text.isBlank (hexChar d) = false := by decide
  intro c hc
  have small : c.toLower ∈ id.toText.toList := by
    rw [← toLower_eq_iff.1 h]
    exact List.mem_map_of_mem hc
  rw [← Text.isBlank_toLower]
  rcases mem_toText small with hyphen | ⟨d, hd, eq⟩
  · rw [hyphen]
    decide
  · rw [eq]
    exact digit d hd

theorem toLower_toUpper_toText (id : Uuid) : id.toText.toUpper.toLower = id.toText := by
  have small : ∀ d < 16, (hexChar d).toUpper.toLower = hexChar d := by decide
  rw [toLower_eq_iff, String.toUpper, String.toList_map, List.map_map]
  refine Eq.trans (List.map_congr_left fun c hc => ?_) (List.map_id _)
  rcases mem_toText hc with rfl | ⟨d, hd, rfl⟩
  · decide
  · exact small d hd

/-- The text of an identifier describes it, in any case and between any blanks. -/
theorem identity?_spelled {id : Uuid} {before text after : String}
    (front : ∀ c ∈ before.toList, Text.isBlank c = true)
    (back : ∀ c ∈ after.toList, Text.isBlank c = true) (lower : text.toLower = id.toText) :
    (Value.string (before ++ text ++ after)).identity? = some id := by
  have trimmed : Text.trim (before ++ text ++ after) = text := by
    rw [Text.trim, String.toList_append, String.toList_append,
      Text.trimList_between front back (isBlank_of_toLower_eq lower), String.ofList_toList]
  rw [Value.identity?, trimmed, ofText?_eq_some_iff]
  exact .hyphenated (toLower_eq_iff.1 lower)

theorem roundTrips (id : Uuid) : id.RoundTrips id.toBytes := by
  have canonical : isCanonicalText id.toText = true :=
    isCanonicalText_iff.2 ⟨id, map_toLower_toText id⟩
  exact {
    bytes_eq := rfl
    length := by rw [← String.length_toList, length_toText]
    lower := toLower_eq_iff.2 (map_toLower_toText id)
    dashed := isCanonicalText_iff_isDashed.1 canonical
    isIdentity := by rw [Value.isIdentity, canonical]
    parsed := ofText?_toText id
    native := by rw [Value.identity?]
    binary := Value.identity?_binary id
    spelled := fun _ _ _ => identity?_spelled
    upper := toLower_toUpper_toText id }

end Uuid

/-! ## Values that describe identifiers -/

namespace Value

/-- Every 16 bytes are those of an identifier, which its bytes, its text and the identifier itself
give back. Conversely, every value that has the shape of a stored identifier describes one, a text
the one of which it is the text but for capital letters, and the shape of a text is that of
36 bytes with hyphens in their places. Bytes of another number and values of other kinds describe
no identifier. -/
theorem identity_codec :
    (∀ bytes : List UInt8, bytes.length = 16 → ∃ id : Uuid, id.RoundTrips bytes) ∧
    (∀ text, (Value.string text).isIdentity = true ↔ Uuid.IsDashed text) ∧
    (∀ v : Value, v.isIdentity = true →
      ∃ id, v.identity? = some id ∧ ∀ text, v = .string text → id.toText = text.toLower) ∧
    (∀ bytes : List UInt8, bytes.length ≠ 16 → (Value.binary bytes).identity? = none) ∧
    (∀ v : Value, v.kind ∉ ["uuid", "string", "binary"] → v.identity? = none) := by
  refine ⟨fun bytes sixteen => ?_, fun text => Uuid.isCanonicalText_iff_isDashed, fun v shape => ?_,
    fun bytes other => if_neg other, fun v kind => ?_⟩
  · obtain ⟨id, rfl⟩ := Uuid.exists_toBytes sixteen
    exact ⟨id, id.roundTrips⟩
  · cases v with
    | uuid id => exact ⟨id, rfl, nofun⟩
    | binary bytes =>
      obtain ⟨id, rfl⟩ := Uuid.exists_toBytes (beq_iff_eq.1 shape)
      exact ⟨id, identity?_binary id, nofun⟩
    | string text =>
      obtain ⟨id, lower⟩ := Uuid.isCanonicalText_iff.1 shape
      have lower := Uuid.toLower_eq_iff.2 lower
      refine ⟨id, ?_, ?_⟩
      · have described := id.roundTrips.spelled "" text "" nofun nofun lower
        rwa [String.empty_append, String.append_empty] at described
      · intro other same
        rw [← Value.string.inj same, lower]
    | null | invalid | bool | integer | number | date => exact absurd shape (by simp [isIdentity])
  · cases v with
    | uuid | binary | string => exact absurd kind (by simp [Value.kind])
    | null | invalid | bool | integer | number | date => rfl

/-- The bytes of the identifier of a name space. -/
def nameSpaceBytes : List UInt8 :=
  [0x6b, 0xa7, 0xb8, 0x10, 0x9d, 0xad, 0x11, 0xd1, 0x80, 0xb4, 0x00, 0xc0, 0x4f, 0xd4, 0x30, 0xc8]

theorem identity_codec_nameSpace :
    (∃ id : Uuid, id.RoundTrips nameSpaceBytes) ∧
    (∃ id, (Value.string "6BA7B810-9DAD-11D1-80B4-00C04FD430C8").identity? = some id ∧
      id.toText = "6ba7b810-9dad-11d1-80b4-00c04fd430c8") ∧
    (Value.string "6ba7b8109dad11d180b400c04fd430c8").isIdentity = false ∧
    (Value.binary [1, 2, 3]).identity? = none ∧ (Value.bool true).identity? = none := by
  obtain ⟨sixteen, -, shape, others, kinds⟩ := identity_codec
  refine ⟨sixteen nameSpaceBytes rfl, ?_, by decide, others [1, 2, 3] (by decide),
    kinds (.bool true) (by decide)⟩
  obtain ⟨id, described, text⟩ :=
    shape (.string "6BA7B810-9DAD-11D1-80B4-00C04FD430C8") (by decide)
  exact ⟨id, described, (text _ rfl).trans (Uuid.toLower_eq_iff.2 (by decide))⟩

end Value

end EntityStore
