import EntityStore.Proofs.KeyTemplate.Marked

set_option autoImplicit false

/-! # Keys of items by their segments

The segments of the key of an item are those of the base, with the identity in the place of their
marks, and after them the name of the model, a fixed one and the identity (`segments_key`). So if
the base is a key, the keys of items are keys, even where the base has marks of its own, and as all
keys have the same number of segments, none lies below that of another item (`isBelow_key_iff`).
Below a base without marks the items of a model can also be told from their keys
(`isCodec_forModel`). -/

namespace EntityStore.KeyTemplate

open Key

/-! ## Filling in segments -/

/-- The text with an identity in the place of each mark. -/
def fill (id : Uuid) (s : String) : String := String.ofList (fillList id.toText.toList s.toList)

theorem mem_fillList {id s : List Char} {c : Char} (h : c ∈ fillList id s) : c ∈ id ∨ c ∈ s := by
  induction s using fillList.induct with
  | case1 => exact absurd h (by simp [fillList])
  | case2 rest ih =>
    rw [fillList] at h
    rcases List.mem_append.1 h with h | h
    · exact .inl h
    · exact (ih h).imp_right fun mem => List.mem_cons_of_mem _ (List.mem_cons_of_mem _ mem)
  | case3 d rest other ih =>
    rw [fillList_cons (not_mark_of_forall other)] at h
    rcases List.mem_cons.1 h with rfl | h
    · exact .inr List.mem_cons_self
    · exact (ih h).imp_right (List.mem_cons_of_mem _)

/-- A text without slashes is filled in within the segments. -/
theorem splitSlash_fillList {id : List Char} (plain : '/' ∉ id) (s : List Char) :
    splitSlash (fillList id s) = (splitSlash s).map (fillList id) := by
  by_cases slash : '/' ∈ s
  · obtain ⟨a, b, rfl⟩ := List.append_of_mem slash
    rw [fillList_slash, splitSlash_append, splitSlash_append, List.map_append,
      splitSlash_fillList plain a, splitSlash_fillList plain b]
  · have filled : '/' ∉ fillList id s := fun mem => (mem_fillList mem).elim plain slash
    rw [splitSlash_of_not_mem slash, splitSlash_of_not_mem filled, List.map_singleton]
termination_by s.length
decreasing_by
  all_goals
    subst_vars
    simp only [List.length_append, List.length_cons]
    omega

theorem segments_fill (id : Uuid) (s : String) :
    segments (fill id s) = (segments s).map (fill id) := by
  have plain : '/' ∉ id.toText.toList := Uuid.not_mem_toText (by decide) (by decide) id
  rw [segments, fill, String.toList_ofList, splitSlash_fillList plain, segments, List.map_map,
    List.map_map]
  refine List.map_congr_left fun part _ => ?_
  rw [Function.comp, Function.comp, fill, String.toList_ofList]

theorem fill_of_unmarked {s : String} (unmarked : ¬ mark <:+: s.toList) (id : Uuid) :
    fill id s = s := by
  have filled := fillList_append unmarked (b := []) (by simp) id.toText.toList
  rw [fillList, List.append_nil] at filled
  rw [fill, filled, String.ofList_toList]

/-- What is longer than `..` may occur in a key. -/
theorem isSegment_of_length {s : String} (long : 2 < s.toList.length) : isSegment s = true := by
  have other {t : String} (short : t.toList.length ≤ 2) : s ≠ t := by
    rintro rfl
    omega
  have filled : s.isEmpty = false := by simpa using other (t := "") (by decide)
  simp [isSegment, filled, other (t := ".") (by decide), other (t := "..") (by decide)]

/-- A segment with marks becomes long, one without stays as it is. -/
theorem isSegment_fill {s : String} (h : isSegment s = true) (id : Uuid) :
    isSegment (fill id s) = true := by
  by_cases marked : mark <:+: s.toList
  · obtain ⟨a, b, eq, first⟩ := exists_first_mark marked
    refine isSegment_of_length ?_
    rw [fill, String.toList_ofList, eq, fillList_append first (by simp [mark]), fillList_mark]
    simp only [List.length_append, Uuid.length_toText]
    omega
  · rwa [fill_of_unmarked marked]

/-! ## Keys -/

variable {base name : String}

theorem segments_of_isIdentifier (named : isIdentifier name = true) : segments name = [name] :=
  segments_of_not_mem (not_mem_of_isIdentifier named (by decide))

theorem segments_key (base : String) (named : isIdentifier name = true) (id : Uuid) :
    segments ((forModel base name).key id) =
      (segments base).map (fill id) ++ [name, "items", id.toText] := by
  have text : (forModel base name).text = base ++ "/" ++ (name ++ "/" ++ "items/%u") := by
    have parts : (forModel base name).text = base ++ "/" ++ name ++ "/items/%u" := rfl
    simp [parts, String.append_assoc]
  have absent : '%' ∉ name.toList := not_mem_of_isIdentifier named (by decide)
  have last : fill id "%u" = id.toText := by simp [fill, fillList]
  calc segments ((forModel base name).key id)
      = (segments (forModel base name).text).map (fill id) := segments_fill id _
    _ = (segments base ++ (segments name ++ segments "items/%u")).map (fill id) := by
        rw [text, segments_append, segments_append]
    _ = (segments base).map (fill id) ++ [fill id name, fill id "items", fill id "%u"] := by
        rw [List.map_append, segments_of_isIdentifier named]
        rfl
    _ = (segments base).map (fill id) ++ [name, "items", id.toText] := by
        rw [fill_of_unmarked (unmarked_of_not_mem absent), fill_of_unmarked (by decide), last]

theorem isSegment_of_isIdentifier (named : isIdentifier name = true) : isSegment name = true := by
  have segment := isSegment_of_not_mem (isIdentifier_chars named).1
    (not_mem_of_isIdentifier named (by decide))
  rwa [String.ofList_toList] at segment

/-- Below a base that is a key, with marks or without, the keys of items are keys. -/
theorem isValid_key (valid : isValid base = true) (named : isIdentifier name = true) (id : Uuid) :
    isValid ((forModel base name).key id) = true := by
  rw [isValid_iff_segments] at valid ⊢
  have last : isSegment id.toText = true := isSegment_of_length (by rw [Uuid.length_toText]; decide)
  rw [segments_key base named]
  intro s hs
  rcases List.mem_append.1 hs with hs | hs
  · obtain ⟨part, hp, rfl⟩ := List.mem_map.1 hs
    exact isSegment_fill (valid part hp) id
  · simp only [List.mem_cons, List.not_mem_nil, or_false] at hs
    obtain rfl | rfl | rfl := hs
    · exact isSegment_of_isIdentifier named
    · decide
    · exact last

theorem isValid_base (valid : isValid base = true) (named : isIdentifier name = true) :
    isValid (forModel base name).base = true := by
  have text : (forModel base name).base = base ++ "/" ++ (name ++ "/" ++ "items") := by
    refine String.toList_injective ?_
    rw [base_forModel, String.toList_ofList, folder]
    simp
  rw [isValid_iff_segments] at valid ⊢
  rw [text, segments_append, segments_append, segments_of_isIdentifier named]
  intro s hs
  rcases List.mem_append.1 hs with hs | hs
  · exact valid s hs
  · rcases List.mem_append.1 hs with hs | hs
    · rw [List.mem_singleton.1 hs]
      exact isSegment_of_isIdentifier named
    · rw [List.mem_singleton.1 hs]
      decide

/-- The key of an item lies below that of another one of the same base only if both items are the
same one of the same model. -/
theorem isBelow_key_iff (base : String) {other : String} (named : isIdentifier name = true)
    (named' : isIdentifier other = true) {id id' : Uuid} :
    isBelow ((forModel base name).key id) ((forModel base other).key id') = true ↔
      (name, id) = (other, id') := by
  rw [isBelow_iff_segments, segments_key base named, segments_key base named']
  constructor
  · intro above
    -- Both have as many segments, so the same ones.
    have same := above.eq_of_length (by simp)
    have tail := (List.append_inj same (by simp)).2
    simp only [List.cons.injEq, and_true, true_and] at tail
    rw [tail.1, Uuid.toText_injective tail.2]
  · intro eq
    obtain ⟨rfl, rfl⟩ := Prod.mk.inj eq
    exact List.prefix_rfl

/-- Keys of items are keys below the base, stand for one item each, and lie apart. -/
structure IsCodec (t : KeyTemplate) : Prop where
  /-- The base is a key. -/
  valid_base : Key.isValid t.base = true
  /-- So are the keys of items. -/
  valid : ∀ id, Key.isValid (t.key id) = true
  /-- They are below the base. -/
  below : ∀ id, Key.isBelow (t.key id) t.base = true
  /-- The identity can be told from a key. -/
  id?_key : ∀ id, t.id? (t.key id) = some id
  /-- No key of an item lies below that of another one. -/
  apart : ∀ {id other}, Key.isBelow (t.key id) (t.key other) = true → id = other

theorem isCodec_forModel {base name : String} (valid : Key.isValid base = true)
    (unmarked : ¬ mark <:+: base.toList) (named : isIdentifier name = true) :
    (forModel base name).IsCodec where
  valid_base := isValid_base valid named
  valid := isValid_key valid named
  below := isBelow_key unmarked named
  id?_key := id?_key unmarked named
  apart h := (Prod.mk.inj ((isBelow_key_iff base named named).1 h)).2

theorem IsCodec.key_inj {t : KeyTemplate} (h : t.IsCodec) {id other : Uuid} :
    t.key id = t.key other ↔ id = other := by
  refine ⟨fun eq => ?_, congrArg t.key⟩
  have same := h.id?_key id
  rw [eq, h.id?_key other] at same
  exact (Option.some.inj same).symm

end EntityStore.KeyTemplate
