import EntityStore.Proofs.Text.Blank
import EntityStore.Text.CaseMap

set_option autoImplicit false

/-! # A change of case is settled after one time

No image of a case mapping is mapped itself, and blank characters are neither mapped nor images.
Both are facts about the tables, and are checked there (`Settled`): the code points in question are
marked as the binary digits of one number (`marks`), so that a single operation on numbers compares
all of them.

So the case of a text is changed by a rendering, and changing it again does nothing. -/

namespace EntityStore.Text

/-! ## Lists of code points without common members -/

/-- The number whose binary digits mark the members of a list. -/
def marks (l : List Nat) : Nat := l.foldr (fun n mask => mask ||| 1 <<< n) 0

theorem testBit_marks (l : List Nat) (n : Nat) : (marks l).testBit n = true ↔ n ∈ l := by
  induction l with
  | nil => simp [marks]
  | cons m l ih =>
    have step : marks (m :: l) = marks l ||| 1 <<< m := rfl
    rw [step, Nat.testBit_or, Bool.or_eq_true, ih, Nat.one_shiftLeft, Nat.testBit_two_pow,
      List.mem_cons, decide_eq_true_eq, or_comm, eq_comm]

/-- Whether two lists have no common member. -/
def apart (l l' : List Nat) : Bool := marks l &&& marks l' == 0

theorem not_mem_of_apart {l l' : List Nat} (h : apart l l' = true) {n : Nat} (hn : n ∈ l) :
    n ∉ l' := by
  intro hn'
  have both : (marks l &&& marks l').testBit n = true := by
    rw [Nat.testBit_and, (testBit_marks l n).2 hn, (testBit_marks l' n).2 hn']
    rfl
  rw [beq_iff_eq.1 h, Nat.zero_testBit] at both
  exact absurd both (by simp)

/-! ## Tables -/

/-- The code points that a run maps, and what it maps them to. -/
def CaseRun.pairs (run : CaseRun) : List (Nat × Nat) :=
  (List.range ((run.last - run.first) / run.stride + 1)).map fun k =>
    (run.first + run.stride * k, run.image + run.stride * k)

theorem CaseRun.mem_pairs {run : CaseRun} {n m : Nat} (h : run.imageOf? n = some m) :
    (n, m) ∈ run.pairs := by
  unfold imageOf? at h
  split at h
  · next within =>
    obtain ⟨first, last, multiple⟩ := within
    have whole : run.stride * ((n - run.first) / run.stride) = n - run.first :=
      Nat.mul_div_cancel' (Nat.dvd_of_mod_eq_zero multiple)
    refine List.mem_map.2 ⟨(n - run.first) / run.stride, ?_, ?_⟩
    · exact List.mem_range.2 (Nat.lt_succ_of_le (Nat.div_le_div_right (by omega)))
    · rw [whole, ← Option.some.inj h, Nat.add_sub_cancel' first]
  · exact absurd h (by simp)

section Tables

variable (runs : List CaseRun) (special : List (Nat × List Nat))

/-- The code points that are mapped. -/
def mappedCodes : List Nat := special.map (·.1) ++ runs.flatMap fun run => run.pairs.map (·.1)

/-- The code points to which others are mapped. -/
def imageCodes : List Nat := special.flatMap (·.2) ++ runs.flatMap fun run => run.pairs.map (·.2)

/-- The code points of blank characters. -/
def blankCodes : List Nat :=
  [9, 10, 11, 12, 13, 0x20, 0x85, 0xA0, 0x1680, 0x2000, 0x2001, 0x2002, 0x2003, 0x2004, 0x2005,
    0x2006, 0x2007, 0x2008, 0x2009, 0x200A, 0x2028, 0x2029, 0x202F, 0x205F, 0x3000]

/-- What the tables of a case mapping are checked for. -/
structure Settled : Prop where
  /-- No image is mapped itself. -/
  images : apart (imageCodes runs special) (mappedCodes runs special) = true
  /-- No blank character is mapped. -/
  mapped : apart blankCodes (mappedCodes runs special) = true
  /-- No image is blank. -/
  letters : apart blankCodes (imageCodes runs special) = true
  /-- Images are code points of characters. -/
  valid : (imageCodes runs special).all
    (fun n => Nat.blt n 0xD800 || Nat.blt 0xDFFF n && Nat.blt n 0x110000) = true
  /-- No list of images is empty. -/
  filled : special.all (fun entry => !entry.2.isEmpty) = true

/-- The image of a character. -/
def caseImage (c : Char) : List Char := (mapCase runs special c.toNat).map Char.ofNat

end Tables

theorem settled_upper : Settled upperRuns upperSpecial :=
  ⟨by decide +kernel, by decide +kernel, by decide +kernel, by decide +kernel, by decide +kernel⟩

theorem settled_lower : Settled lowerRuns lowerSpecial :=
  ⟨by decide +kernel, by decide +kernel, by decide +kernel, by decide +kernel, by decide +kernel⟩

theorem mem_blankCodes {c : Char} (h : isBlank c = true) : c.toNat ∈ blankCodes := by
  simp only [isBlank, Bool.or_eq_true, Bool.and_eq_true, decide_eq_true_eq, beq_iff_eq] at h
  simp only [blankCodes, List.mem_cons, List.not_mem_nil, or_false]
  omega

/-! ## Characters -/

namespace Settled

variable {runs : List CaseRun} {special : List (Nat × List Nat)}

/-- A code point stays, or it is mapped to images. -/
theorem mapCase_cases (h : Settled runs special) (n : Nat) :
    mapCase runs special n = [n] ∨ n ∈ mappedCodes runs special ∧ mapCase runs special n ≠ [] ∧
      ∀ m ∈ mapCase runs special n, m ∈ imageCodes runs special := by
  unfold mapCase mappedCodes imageCodes
  split
  · next image found =>
    -- A special entry maps the code point.
    obtain ⟨before, after, rfl, -⟩ := List.lookup_eq_some_iff.1 found
    refine .inr ⟨by simp, ?_, ?_⟩
    · have filled := List.all_eq_true.1 h.filled (n, image) (by simp)
      simpa using filled
    · intro m hm
      simp [hm]
  · cases found : runs.findSome? (·.imageOf? n) with
    | none => exact .inl rfl
    | some m =>
      -- A run maps it, to a single code point.
      obtain ⟨run, hrun, image⟩ := List.exists_of_findSome?_eq_some found
      have pair := CaseRun.mem_pairs image
      refine .inr ⟨?_, by simp, ?_⟩
      · exact List.mem_append_right _
          (List.mem_flatMap.2 ⟨run, hrun, List.mem_map.2 ⟨(n, m), pair, rfl⟩⟩)
      · intro k hk
        obtain rfl : k = m := by simpa using hk
        exact List.mem_append_right _
          (List.mem_flatMap.2 ⟨run, hrun, List.mem_map.2 ⟨(n, k), pair, rfl⟩⟩)

theorem mapCase_of_not_mem (h : Settled runs special) {n : Nat}
    (hn : n ∉ mappedCodes runs special) : mapCase runs special n = [n] := by
  rcases h.mapCase_cases n with same | ⟨mapped, -⟩
  · exact same
  · exact absurd mapped hn

theorem toNat_ofNat (h : Settled runs special) {n : Nat} (hn : n ∈ imageCodes runs special) :
    (Char.ofNat n).toNat = n := by
  have valid := List.all_eq_true.1 h.valid n hn
  simp only [Bool.or_eq_true, Bool.and_eq_true, Nat.blt_eq] at valid
  rw [Char.ofNat, dif_pos (show n.isValidChar from valid)]
  rfl

theorem caseImage_of_not_mem (h : Settled runs special) {c : Char}
    (hc : c.toNat ∉ mappedCodes runs special) : caseImage runs special c = [c] := by
  rw [caseImage, h.mapCase_of_not_mem hc, List.map_singleton, Char.ofNat_toNat]

theorem caseImage_blank (h : Settled runs special) {c : Char} (hc : isBlank c = true) :
    caseImage runs special c = [c] :=
  h.caseImage_of_not_mem (not_mem_of_apart h.mapped (mem_blankCodes hc))

/-- A character stays, or it is replaced by others that are not blank and not mapped. -/
theorem caseImage_cases (h : Settled runs special) (c : Char) :
    caseImage runs special c = [c] ∨ caseImage runs special c ≠ [] ∧
      ∀ d ∈ caseImage runs special c,
        isBlank d = false ∧ d.toNat ∉ mappedCodes runs special := by
  rcases h.mapCase_cases c.toNat with same | ⟨-, hne, images⟩
  · left
    rw [caseImage, same, List.map_singleton, Char.ofNat_toNat]
  · right
    refine ⟨by simpa [caseImage] using hne, ?_⟩
    intro d hd
    obtain ⟨m, hm, rfl⟩ := List.mem_map.1 hd
    have image := images m hm
    constructor
    · cases blank : isBlank (Char.ofNat m) with
      | false => rfl
      | true =>
        have code := mem_blankCodes blank
        -- Blank code points are apart from the images.
        rw [h.toNat_ofNat image] at code
        exact absurd image (not_mem_of_apart h.letters code)
    · rw [h.toNat_ofNat image]
      exact not_mem_of_apart h.images image

end Settled

/-! ## Upper case -/

theorem upperChar_blank {c : Char} (h : isBlank c = true) : upperChar c = [c] :=
  Settled.caseImage_blank settled_upper h

theorem upperChar_ne_nil (c : Char) : upperChar c ≠ [] := by
  rcases Settled.caseImage_cases settled_upper c with same | ⟨hne, -⟩
  · exact fun h => absurd (same.symm.trans h) (by simp)
  · exact hne

theorem upperChar_letter {c d : Char} (hc : isBlank c = false) (hd : d ∈ upperChar c) :
    isBlank d = false := by
  rcases Settled.caseImage_cases settled_upper c with same | ⟨-, images⟩
  · have hd' : d ∈ [c] := same ▸ hd
    rwa [List.mem_singleton.1 hd']
  · exact (images d hd).1

/-- What is in upper case stays as it is. -/
theorem upperChar_upperChar {c d : Char} (hd : d ∈ upperChar c) : upperChar d = [d] := by
  rcases Settled.caseImage_cases settled_upper c with same | ⟨-, images⟩
  · have hd' : d ∈ [c] := same ▸ hd
    rw [List.mem_singleton.1 hd']
    exact same
  · exact Settled.caseImage_of_not_mem settled_upper (images d hd).2

theorem rendering_upper (s : List Char) : Rendering s (s.flatMap upperChar) := by
  induction s with
  | nil => exact .nil
  | cons c rest ih =>
    rw [List.flatMap_cons]
    cases hc : isBlank c with
    | true =>
      rw [upperChar_blank hc]
      exact .blank hc ih
    | false =>
      exact .letter hc (upperChar_ne_nil c) (fun d => upperChar_letter hc) ih

theorem flatMap_upperChar_eq_self {s : List Char} (h : ∀ c ∈ s, upperChar c = [c]) :
    s.flatMap upperChar = s := by
  induction s with
  | nil => rfl
  | cons c rest ih =>
    obtain ⟨hc, hrest⟩ := List.forall_mem_cons.1 h
    rw [List.flatMap_cons, hc, ih hrest, List.singleton_append]

theorem upper_upper (s : List Char) :
    (s.flatMap upperChar).flatMap upperChar = s.flatMap upperChar := by
  refine flatMap_upperChar_eq_self fun d hd => ?_
  obtain ⟨c, -, hc⟩ := List.mem_flatMap.1 hd
  exact upperChar_upperChar hc

/-! ## Lower case -/

/-- The character stays when a text is written in lower case, wherever it stands. -/
def IsLower (c : Char) : Prop := c ≠ 'Σ' ∧ lowerChar c = [c]

/-- The image of a character within a text. -/
def lowerAt (before : List Char) (c : Char) (rest : List Char) : List Char :=
  if c = 'Σ' then
    if casedPastIgnorable before && !casedPastIgnorable rest then ['ς'] else ['σ']
  else lowerChar c

theorem lowerFrom_cons (before : List Char) (c : Char) (rest : List Char) :
    lowerFrom before (c :: rest) = lowerAt before c rest ++ lowerFrom (c :: before) rest := rfl

theorem lowerAt_blank {c : Char} (h : isBlank c = true) (before rest : List Char) :
    lowerAt before c rest = [c] := by
  rw [lowerAt, if_neg (by rintro rfl; exact absurd h (by decide))]
  exact Settled.caseImage_blank settled_lower h

theorem capitalSigma_mapped : 'Σ'.toNat ∈ mappedCodes lowerRuns lowerSpecial := by
  decide +kernel

theorem isLower_sigma : IsLower 'σ' := ⟨by decide, by decide +kernel⟩

theorem isLower_finalSigma : IsLower 'ς' := ⟨by decide, by decide +kernel⟩

/-- The image of a character is in lower case and not empty, and blank only if the character is. -/
theorem lowerAt_image (before : List Char) (c : Char) (rest : List Char) :
    lowerAt before c rest ≠ [] ∧ ∀ d ∈ lowerAt before c rest,
      IsLower d ∧ (isBlank c = false → isBlank d = false) := by
  unfold lowerAt
  split
  · split
    · refine ⟨by simp, fun d hd => ?_⟩
      -- The capital sigma has two images, at the end of a word and elsewhere.
      rw [List.mem_singleton.1 hd]
      exact ⟨isLower_finalSigma, fun _ => by decide⟩
    · refine ⟨by simp, fun d hd => ?_⟩
      rw [List.mem_singleton.1 hd]
      exact ⟨isLower_sigma, fun _ => by decide⟩
  · next other =>
    rcases Settled.caseImage_cases settled_lower c with same | ⟨hne, images⟩
    · have same' : lowerChar c = [c] := same
      rw [same']
      refine ⟨by simp, fun d hd => ?_⟩
      rw [List.mem_singleton.1 hd]
      exact ⟨⟨other, same'⟩, id⟩
    · refine ⟨hne, fun d hd => ⟨⟨?_, ?_⟩, fun _ => (images d hd).1⟩⟩
      · rintro rfl
        exact (images _ hd).2 capitalSigma_mapped
      · exact Settled.caseImage_of_not_mem settled_lower (images d hd).2

theorem rendering_lower (before s : List Char) : Rendering s (lowerFrom before s) := by
  induction s generalizing before with
  | nil => exact .nil
  | cons c rest ih =>
    rw [lowerFrom_cons]
    cases hc : isBlank c with
    | true =>
      rw [lowerAt_blank hc]
      exact .blank hc (ih _)
    | false =>
      -- Whatever stands around it, the image is one of a letter.
      obtain ⟨hne, images⟩ := lowerAt_image before c rest
      exact .letter hc hne (fun d hd => (images d hd).2 hc) (ih _)

theorem isLower_of_mem_lowerFrom {before s : List Char} {d : Char} (h : d ∈ lowerFrom before s) :
    IsLower d := by
  induction s generalizing before with
  | nil => exact absurd h (by simp [lowerFrom])
  | cons c rest ih =>
    rw [lowerFrom_cons] at h
    rcases List.mem_append.1 h with h | h
    · exact ((lowerAt_image before c rest).2 d h).1
    · exact ih h

theorem lowerFrom_eq_self {s : List Char} (h : ∀ c ∈ s, IsLower c) (before : List Char) :
    lowerFrom before s = s := by
  induction s generalizing before with
  | nil => rfl
  | cons c rest ih =>
    obtain ⟨⟨hc, image⟩, hrest⟩ := List.forall_mem_cons.1 h
    rw [lowerFrom_cons, ih hrest, lowerAt, if_neg hc, image, List.singleton_append]

theorem lowerFrom_lowerFrom (before before' s : List Char) :
    lowerFrom before (lowerFrom before' s) = lowerFrom before' s :=
  lowerFrom_eq_self (fun _ => isLower_of_mem_lowerFrom) before

end EntityStore.Text
