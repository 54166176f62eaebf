import EntityStore.Text.Blank
import Mathlib.Data.List.DropRight

set_option autoImplicit false

/-! # Trimmed, folded and collapsed texts

Trimming, folding and collapsing leave a text alone that they have already brought into form. What
is more, the form of a trimmed or collapsed text survives when each character that is not blank is
replaced by some that are not blank either (`Rendering`), as a change of case does. -/

namespace EntityStore.Text

theorem isBlank_of_isDigit {c : Char} (h : c.isDigit = true) : isBlank c = false := by
  have within : 48 ≤ c.toNat ∧ c.toNat ≤ 57 := by
    simpa [Char.isDigit, UInt32.le_iff_toNat_le] using h
  simp [isBlank]
  omega

/-! ## Trimmed texts -/

/-- A text does not begin with a blank character. -/
def Fronted (s : List Char) : Prop := ∀ c, s.head? = some c → isBlank c = false

/-- A text neither begins nor ends with a blank character. -/
def Trimmed (s : List Char) : Prop := Fronted s ∧ Fronted s.reverse

theorem trimFront_eq_self {s : List Char} : trimFront s = s ↔ Fronted s := by
  unfold trimFront Fronted
  cases s with
  | nil => simp
  | cons c rest =>
    rw [List.dropWhile_cons]
    constructor
    · intro h d hd
      obtain rfl : c = d := by simpa using hd
      by_contra blank
      -- A blank at the front is dropped, so the text would get shorter.
      rw [if_pos (by simpa using blank)] at h
      have shorter := (List.dropWhile_suffix isBlank (l := rest)).length_le
      rw [h, List.length_cons] at shorter
      omega
    · intro h
      rw [if_neg (by simp [h c rfl])]

theorem fronted_trimFront (s : List Char) : Fronted (trimFront s) := by
  intro c hc
  have := List.head?_dropWhile_not isBlank s
  rw [← trimFront, hc] at this
  simpa using this

theorem Fronted.of_start {s t : List Char} (h : Fronted t) (hs : s <+: t) : Fronted s := by
  obtain ⟨rest, rfl⟩ := hs
  intro c hc
  exact h c (by rw [List.head?_append, hc, Option.some_or])

theorem trimmed_trimList (s : List Char) : Trimmed (trimList s) := by
  have ends : Fronted (trimFront (trimFront s).reverse) := fronted_trimFront _
  refine ⟨(fronted_trimFront s).of_start ?_, ?_⟩
  -- What is left after trimming the end is a start of the text.
  · have suffix : trimFront (trimFront s).reverse <:+ (trimFront s).reverse :=
      List.dropWhile_suffix _
    rw [← List.reverse_suffix, trimList, List.reverse_reverse]
    exact suffix
  · rwa [trimList, List.reverse_reverse]

theorem trimList_eq_self {s : List Char} (h : Trimmed s) : trimList s = s := by
  rw [trimList, trimFront_eq_self.2 h.1, trimFront_eq_self.2 h.2, List.reverse_reverse]

/-! ## Folded names -/

/-- Writing a letter in lower case changes the letters `A` to `Z` alone. -/
theorem toLower_cases (c : Char) :
    c.toLower = c ∨ 65 ≤ c.toNat ∧ c.toNat ≤ 90 ∧ c.toLower.toNat = c.toNat + 32 := by
  unfold Char.toLower
  split
  · next upper =>
    obtain ⟨low, high⟩ : 65 ≤ c.toNat ∧ c.toNat ≤ 90 := by
      simpa [UInt32.le_iff_toNat_le] using upper
    refine .inr ⟨low, high, ?_⟩
    have sum : (c.val + 32).toNat = (c.toNat + 32) % 2 ^ 32 := UInt32.toNat_add c.val 32
    have lower : (c.val + 32).toNat = c.toNat + 32 := by omega
    exact lower
  · exact .inl rfl

theorem toLower_eq_self {c : Char} (h : c.toNat < 65 ∨ 90 < c.toNat) : c.toLower = c := by
  rcases toLower_cases c with same | ⟨low, high, -⟩
  · exact same
  · omega

theorem toLower_toLower (c : Char) : c.toLower.toLower = c.toLower := by
  rcases toLower_cases c with same | ⟨low, high, lower⟩
  · rw [same, same]
  · exact toLower_eq_self (by omega)

theorem isBlank_toLower (c : Char) : isBlank c.toLower = isBlank c := by
  rcases toLower_cases c with same | ⟨low, high, lower⟩
  · rw [same]
  · have letter : isBlank c = false := by
      simp [isBlank]
      omega
    rw [letter]
    simp [isBlank, lower]
    omega

theorem Fronted.map_toLower {s : List Char} (h : Fronted s) : Fronted (s.map Char.toLower) := by
  intro c hc
  rw [List.head?_map, Option.map_eq_some_iff] at hc
  obtain ⟨d, hd, rfl⟩ := hc
  rw [isBlank_toLower]
  exact h d hd

/-- A name that has been folded stays as it is. -/
theorem fold_fold (s : String) : fold (fold s) = fold s := by
  have trimmed := trimmed_trimList s.toList
  have lower : Trimmed ((trimList s.toList).map Char.toLower) :=
    ⟨trimmed.1.map_toLower, by rw [← List.map_reverse]; exact trimmed.2.map_toLower⟩
  simp only [fold, lowerAscii, trim, String.toList_ofList, trimList_eq_self lower, List.map_map,
    Function.comp_def, toLower_toLower]

/-! ## Collapsed texts -/

theorem collapseList_length_le (inside : Bool) (s : List Char) :
    (collapseList inside s).length ≤ s.length := by
  induction s generalizing inside with
  | nil => simp [collapseList]
  | cons c rest ih =>
    have within := ih true
    have outside := ih false
    unfold collapseList
    split
    · split <;> simp <;> omega
    · simpa using outside

theorem collapseList_collapseList (inside : Bool) (s : List Char) :
    collapseList inside (collapseList inside s) = collapseList inside s := by
  induction s generalizing inside with
  | nil => rfl
  | cons c rest ih =>
    cases hc : isBlank c <;> cases inside <;>
      simp [collapseList, hc, ih, show isBlank ' ' = true from by decide]

/-- After a character that is not blank it does not matter what came before. -/
theorem collapseList_append_word (inside : Bool) {word : List Char} (hne : word ≠ [])
    (hw : ∀ c ∈ word, isBlank c = false) (s : List Char) :
    collapseList inside (word ++ s) = word ++ collapseList false s := by
  induction word generalizing inside with
  | nil => exact absurd rfl hne
  | cons c rest ih =>
    obtain ⟨hc, hrest⟩ := List.forall_mem_cons.1 hw
    by_cases hr : rest = []
    · simp [hr, collapseList, hc]
    · simp [collapseList, hc, ih false hr hrest]

/-- A character at the end that is not blank stays there. -/
theorem collapseList_append_single (inside : Bool) (s : List Char) {c : Char}
    (hc : isBlank c = false) :
    collapseList inside (s ++ [c]) = collapseList inside s ++ [c] := by
  induction s generalizing inside with
  | nil => simp [collapseList, hc]
  | cons d rest ih =>
    rw [List.cons_append]
    unfold collapseList
    split
    · split <;> simp [ih]
    · simp [ih]

theorem fronted_collapseList {s : List Char} (h : Fronted s) : Fronted (collapseList false s) := by
  cases s with
  | nil => exact h
  | cons c rest =>
    have hc : isBlank c = false := h c rfl
    intro d hd
    obtain rfl : c = d := by simpa [collapseList, hc] using hd
    exact hc

/-- Collapsing a trimmed text leaves it trimmed. -/
theorem Trimmed.collapseList {s : List Char} (h : Trimmed s) : Trimmed (collapseList false s) := by
  refine ⟨fronted_collapseList h.1, ?_⟩
  rcases List.eq_nil_or_concat s with rfl | ⟨front, c, rfl⟩
  · exact h.2
  · have hc : isBlank c = false := h.2 c (by simp)
    rw [List.concat_eq_append, collapseList_append_single false front hc]
    intro d hd
    obtain rfl : c = d := by simpa using hd
    exact hc

/-! ## Renderings -/

/-- One text is the other one with each character that is not blank replaced by one or more that are
not blank either. -/
inductive Rendering : List Char → List Char → Prop
  | nil : Rendering [] []
  /-- A blank character stays. -/
  | blank {c : Char} {s t : List Char} (hc : isBlank c = true) (rest : Rendering s t) :
      Rendering (c :: s) (c :: t)
  /-- Another character is replaced. -/
  | letter {c : Char} {image s t : List Char} (hc : isBlank c = false) (hne : image ≠ [])
      (himage : ∀ d ∈ image, isBlank d = false) (rest : Rendering s t) :
      Rendering (c :: s) (image ++ t)

namespace Rendering

variable {s t u v : List Char}

theorem refl (s : List Char) : Rendering s s := by
  induction s with
  | nil => exact .nil
  | cons c rest ih =>
    cases hc : isBlank c with
    | true => exact .blank hc ih
    | false => exact .letter hc (List.cons_ne_nil c []) (by simpa using hc) ih

theorem append (h : Rendering s t) (h' : Rendering u v) : Rendering (s ++ u) (t ++ v) := by
  induction h with
  | nil => exact h'
  | blank hc rest ih => exact .blank hc ih
  | letter hc hne himage rest ih =>
    rw [List.cons_append, List.append_assoc]
    exact .letter hc hne himage ih

theorem reverse (h : Rendering s t) : Rendering s.reverse t.reverse := by
  induction h with
  | nil => exact .nil
  | blank hc rest ih =>
    rw [List.reverse_cons, List.reverse_cons]
    exact ih.append (.blank hc .nil)
  | @letter c image s t hc hne himage rest ih =>
    have letters : ∀ d ∈ image.reverse, isBlank d = false := by simpa using himage
    -- Each image is turned around by itself.
    have last := Rendering.letter hc (List.reverse_ne_nil_iff.2 hne) letters .nil
    rw [List.append_nil] at last
    rw [List.reverse_cons, List.reverse_append]
    exact ih.append last

theorem fronted (h : Rendering s t) (hs : Fronted s) : Fronted t := by
  cases h with
  | nil => exact hs
  | blank hc rest => exact absurd (hs _ rfl) (by simp [hc])
  | @letter c image s t hc hne himage rest =>
    intro d hd
    obtain ⟨e, image', rfl⟩ := List.exists_cons_of_ne_nil hne
    obtain rfl : e = d := by simpa using hd
    exact himage e List.mem_cons_self

theorem trimmed (h : Rendering s t) (hs : Trimmed s) : Trimmed t :=
  ⟨h.fronted hs.1, h.reverse.fronted hs.2⟩

/-- A rendering of a collapsed text is collapsed. -/
theorem collapsed (h : Rendering s t) {inside : Bool} (hs : collapseList inside s = s) :
    collapseList inside t = t := by
  induction h generalizing inside with
  | nil => rfl
  | @blank c s t hc rest ih =>
    simp only [collapseList, hc, if_true] at hs ⊢
    split at hs
    -- Within a run of blanks the character would have been dropped.
    · have shorter := collapseList_length_le true s
      rw [hs, List.length_cons] at shorter
      omega
    · next outside =>
      obtain ⟨space, tail⟩ : ' ' = c ∧ collapseList true s = s := by simpa using hs
      rw [if_neg outside, ih tail, space]
  | @letter c image s t hc hne himage rest ih =>
    simp only [collapseList, hc, Bool.false_eq_true, if_false, List.cons.injEq, true_and] at hs
    rw [collapseList_append_word inside hne himage, ih hs]

end Rendering

end EntityStore.Text
