import EntityStore.Storage.Key
import Mathlib.Data.List.Infix

set_option autoImplicit false

/-! # Keys by their segments -/

namespace EntityStore

/-- A text up to its last mark, and what comes behind it. -/
theorem List.append_cons_inj_of_last {α : Type} {mark : α} {x y l r : List α} (hl : mark ∉ l)
    (hr : mark ∉ r) (h : x ++ mark :: l = y ++ mark :: r) : x = y ∧ l = r := by
  rcases List.append_eq_append_iff.1 h with ⟨between, rfl, eq⟩ | ⟨between, rfl, eq⟩
  · cases between with
    | nil => exact ⟨(List.append_nil x).symm, (List.cons.inj eq).2⟩
    | cons a rest => exact absurd ((List.cons.inj eq).2 ▸ by simp) hl
  · cases between with
    | nil => exact ⟨List.append_nil y, (List.cons.inj eq).2.symm⟩
    | cons a rest => exact absurd ((List.cons.inj eq).2 ▸ by simp) hr

namespace Key

/-! ## Segments -/

theorem exists_splitSlash (s : List Char) : ∃ part parts, splitSlash s = part :: parts := by
  rcases s with _ | ⟨c, rest⟩
  · exact ⟨[], [], rfl⟩
  · unfold splitSlash
    split
    · exact ⟨_, _, rfl⟩
    · split <;> exact ⟨_, _, rfl⟩

/-- A slash separates the segments before it from those after it. -/
theorem splitSlash_append (a b : List Char) :
    splitSlash (a ++ '/' :: b) = splitSlash a ++ splitSlash b := by
  induction a with
  | nil => simp [splitSlash]
  | cons c rest ih =>
    rw [List.cons_append]
    by_cases hc : c = '/'
    · simp [splitSlash, hc, ih]
    · obtain ⟨part, parts, eq⟩ := exists_splitSlash rest
      simp [splitSlash, hc, ih, eq]

theorem not_mem_of_mem_splitSlash {s part : List Char} (h : part ∈ splitSlash s) : '/' ∉ part := by
  induction s generalizing part with
  | nil => simp_all [splitSlash]
  | cons c rest ih =>
    obtain ⟨first, parts, eq⟩ := exists_splitSlash rest
    rw [eq] at ih
    by_cases hc : c = '/'
    · rw [splitSlash, if_pos hc, eq] at h
      rcases List.mem_cons.1 h with rfl | h
      · exact List.not_mem_nil
      · exact ih h
    · rw [splitSlash, if_neg hc, eq] at h
      rcases List.mem_cons.1 h with rfl | h
      · exact List.not_mem_cons_of_ne_of_not_mem (Ne.symm hc) (ih List.mem_cons_self)
      · exact ih (List.mem_cons_of_mem _ h)

theorem intercalate_splitSlash (s : List Char) : ['/'].intercalate (splitSlash s) = s := by
  induction s with
  | nil => rfl
  | cons c rest ih =>
    obtain ⟨part, parts, eq⟩ := exists_splitSlash rest
    rw [eq] at ih
    by_cases hc : c = '/'
    · rw [splitSlash, if_pos hc, eq, List.intercalate_cons_cons, ih, hc]
      rfl
    · rw [splitSlash, if_neg hc, eq]
      cases parts with
      | nil => simpa using ih
      | cons q parts =>
        rw [List.intercalate_cons_cons] at ih ⊢
        rw [← ih]
        rfl

theorem splitSlash_of_not_mem {s : List Char} (h : '/' ∉ s) : splitSlash s = [s] := by
  induction s with
  | nil => rfl
  | cons c rest ih =>
    rw [List.mem_cons, not_or] at h
    simp [splitSlash, Ne.symm h.1, ih h.2]

/-- A text without dots may occur in a key. -/
theorem isSegment_of_not_mem {s : List Char} (filled : s ≠ []) (h : '.' ∉ s) :
    isSegment (String.ofList s) = true := by
  have other {t : String} (ht : '.' ∈ t.toList) : String.ofList s ≠ t := by
    rintro rfl
    exact h (by simpa using ht)
  simp [isSegment, filled, other (t := ".") (by decide), other (t := "..") (by decide)]

/-! ## Keys as lists of segments -/

/-- A key is a text whose segments may all occur in keys; that of an empty text may not. -/
theorem isValid_iff_segments {key : String} :
    isValid key = true ↔ ∀ s ∈ segments key, isSegment s = true := by
  unfold isValid
  rw [Bool.and_eq_true, List.all_eq_true]
  refine ⟨And.right, fun h => ⟨?_, h⟩⟩
  cases empty : key.isEmpty with
  | false => rfl
  | true =>
    rw [String.isEmpty_iff] at empty
    subst empty
    exact absurd (h "" (by decide)) (by decide)

theorem segments_ne_nil (key : String) : segments key ≠ [] := by
  obtain ⟨part, parts, eq⟩ := exists_splitSlash key.toList
  simp [segments, eq]

/-- There is no slash in a segment. -/
theorem not_mem_of_mem_segments {key s : String} (h : s ∈ segments key) : '/' ∉ s.toList := by
  obtain ⟨part, hp, rfl⟩ := List.mem_map.1 h
  rw [String.toList_ofList]
  exact not_mem_of_mem_splitSlash hp

/-- A key is the text of its segments. -/
theorem ofSegments_segments (key : String) : ofSegments (segments key) = key := by
  refine String.toList_injective ?_
  have same : String.toList ∘ String.ofList = id := funext fun _ => String.toList_ofList
  rw [ofSegments, String.toList_intercalate, segments, List.map_map, same, List.map_id]
  exact intercalate_splitSlash key.toList

theorem ofSegments_singleton (s : String) : ofSegments [s] = s := String.intercalate_singleton

/-- A slash stands between the texts of two groups of segments. -/
theorem ofSegments_append {a b : List String} (ha : a ≠ []) (hb : b ≠ []) :
    ofSegments (a ++ b) = ofSegments a ++ "/" ++ ofSegments b := by
  induction a with
  | nil => exact absurd rfl ha
  | cons s rest ih =>
    unfold ofSegments at ih ⊢
    cases rest with
    | nil =>
      rw [List.singleton_append, String.intercalate_cons_of_ne_nil hb, String.intercalate_singleton]
    | cons t rest =>
      rw [List.cons_append, String.intercalate_cons_of_ne_nil (by simp), ih (by simp),
        String.intercalate_cons_cons]
      simp only [String.append_assoc]

/-- A slash separates the segments before it from those after it. -/
theorem segments_append (base rest : String) :
    segments (base ++ "/" ++ rest) = segments base ++ segments rest := by
  have chars : (base ++ "/" ++ rest).toList = base.toList ++ '/' :: rest.toList := by
    simp [String.toList_append]
  rw [segments, chars, splitSlash_append, List.map_append]
  rfl

theorem segments_of_not_mem {s : String} (h : '/' ∉ s.toList) : segments s = [s] := by
  rw [segments, splitSlash_of_not_mem h, List.map_singleton, String.ofList_toList]

/-- Segments are those of their text. -/
theorem segments_ofSegments {l : List String} (filled : l ≠ []) (h : ∀ s ∈ l, '/' ∉ s.toList) :
    segments (ofSegments l) = l := by
  induction l with
  | nil => exact absurd rfl filled
  | cons s rest ih =>
    obtain ⟨hs, hr⟩ := List.forall_mem_cons.1 h
    cases rest with
    | nil => rw [ofSegments_singleton, segments_of_not_mem hs]
    | cons t rest =>
      rw [← List.singleton_append, ofSegments_append (by simp) (by simp), segments_append,
        ofSegments_singleton, segments_of_not_mem hs, ih (by simp) hr]

/-- A key is continued by another one after a slash. -/
def IsAbove (path key : String) : Prop := ∃ rest, key = path ++ "/" ++ rest

theorem isAbove_ofSegments {a b : List String} (ha : a ≠ []) (hb : b ≠ []) :
    IsAbove (ofSegments a) (ofSegments (a ++ b)) := ⟨ofSegments b, ofSegments_append ha hb⟩

theorem IsAbove.trans {a b c : String} (h : IsAbove a b) (h' : IsAbove b c) : IsAbove a c := by
  obtain ⟨rest, rfl⟩ := h
  obtain ⟨rest', rfl⟩ := h'
  exact ⟨rest ++ "/" ++ rest', by simp only [String.append_assoc]⟩

/-- Under a valid key stand the keys of all its first segments. -/
theorem IsAbove.isValid {path key : String} (above : IsAbove path key)
    (h : Key.isValid key = true) : Key.isValid path = true := by
  obtain ⟨rest, rfl⟩ := above
  rw [isValid_iff_segments] at h ⊢
  rw [segments_append] at h
  exact fun s hs => h s (List.mem_append_left _ hs)

/-! ## Order -/

/-- A key lies below another one if it is the same or continues it after a slash. -/
theorem isBelow_iff {key base : String} :
    isBelow key base = true ↔ key = base ∨ IsAbove base key := by
  unfold isBelow IsAbove
  rw [Bool.or_eq_true, beq_iff_eq, Bool.and_eq_true, List.isPrefixOf_iff_prefix, beq_iff_eq]
  refine or_congr_right ⟨?_, ?_⟩
  · rintro ⟨⟨tail, eq⟩, slash⟩
    rw [← eq, List.getElem?_append_right (Nat.le_refl _), Nat.sub_self] at slash
    cases tail with
    | nil => exact absurd slash (by simp)
    | cons c tail =>
      obtain rfl : c = '/' := by simpa using slash
      refine ⟨String.ofList tail, String.toList_injective ?_⟩
      simp [← eq]
  · rintro ⟨rest, rfl⟩
    simp

/-- A key lies below another one if its segments are those of the other, or continue them. -/
theorem isBelow_iff_segments {key base : String} :
    isBelow key base = true ↔ segments base <+: segments key := by
  rw [isBelow_iff]
  constructor
  · rintro (rfl | ⟨rest, rfl⟩)
    · exact List.prefix_rfl
    · exact ⟨segments rest, (segments_append base rest).symm⟩
  · rintro ⟨tail, eq⟩
    rw [← ofSegments_segments key, ← ofSegments_segments base, ← eq]
    by_cases more : tail = []
    · exact .inl (by rw [more, List.append_nil])
    · exact .inr (isAbove_ofSegments (segments_ne_nil base) more)

/-- What is below something that lies below a key lies below the key. -/
theorem IsAbove.isBelow {path key base : String} (above : IsAbove path key)
    (below : Key.isBelow path base = true) : Key.isBelow key base = true := by
  rw [isBelow_iff] at below ⊢
  rcases below with rfl | below
  · exact .inr above
  · exact .inr (below.trans above)

theorem isBelow_append (base rest : List Char) :
    isBelow (String.ofList (base ++ '/' :: rest)) (String.ofList base) = true := by
  simp [isBelow]

end Key

end EntityStore
