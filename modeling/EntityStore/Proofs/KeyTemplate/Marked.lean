import EntityStore.Config
import EntityStore.Proofs.KeyTemplate

set_option autoImplicit false

/-! # Bases of keys with a mark of their own

The base of all keys may have the mark in whose place the identity of an item is put. Then the
identity stands in a key more than once, so that it cannot be told from the key, and the common
base, in which the mark is left as it is, is not above the key. This is the only case in which keys
cannot be read back (`key_invertible`); it is not ruled out for configured bases
(`configured_key_lost`). -/

namespace EntityStore

theorem Key.prefix_of_isBelow {key base : String} (h : isBelow key base = true) :
    base.toList <+: key.toList := by
  unfold isBelow at h
  rcases Bool.or_eq_true _ _ ▸ h with same | below
  · exact beq_iff_eq.1 same ▸ List.prefix_rfl
  · rw [Bool.and_eq_true] at below
    exact List.isPrefixOf_iff_prefix.1 below.1

namespace KeyTemplate

/-! ## The first and the last mark -/

/-- A text with a mark has a first one. -/
theorem exists_first_mark {s : List Char} (h : mark <:+: s) :
    ∃ a b, s = a ++ (mark ++ b) ∧ ¬ mark <:+: a := by
  induction s with
  | nil => exact absurd h (by decide)
  | cons c rest ih =>
    by_cases start : mark <+: c :: rest
    · obtain ⟨b, eq⟩ := start
      exact ⟨[], b, eq.symm, by decide⟩
    · have later : mark <:+: rest := (List.infix_cons_iff.1 h).resolve_left start
      obtain ⟨a, b, rfl, first⟩ := ih later
      refine ⟨c :: a, b, rfl, ?_⟩
      rw [List.infix_cons_iff, not_or]
      exact ⟨fun found => start (found.trans (List.prefix_append _ _)), first⟩

/-- A slash stands apart from all marks. -/
theorem fillList_slash (id a b : List Char) :
    fillList id (a ++ '/' :: b) = fillList id a ++ '/' :: fillList id b := by
  induction a using fillList.induct with
  | case1 => exact fillList_cons (by simp [mark])
  | case2 rest ih => simp [fillList, ih]
  | case3 c rest other ih =>
    have unmarked := not_mark_of_forall other
    have unmarked' : ¬ mark <+: c :: (rest ++ '/' :: b) := by
      intro found
      rcases rest with _ | ⟨d, rest⟩
      · exact absurd found (by simp [mark])
      · exact unmarked (by simpa [mark] using found)
    rw [List.cons_append, fillList_cons unmarked', ih, fillList_cons unmarked, List.cons_append]

theorem fillList_mark (id b : List Char) : fillList id (mark ++ b) = id ++ fillList id b := by
  rw [mark, List.cons_append, List.cons_append, List.nil_append, fillList]

theorem splitList_mark (b : List Char) : splitList (mark ++ b) = some ([], b) := by
  rw [mark, List.cons_append, List.cons_append, List.nil_append, splitList]

theorem splitList_first_mark {a : List Char} (first : ¬ mark <:+: a) (b : List Char) :
    splitList (a ++ (mark ++ b)) = some (a, b) := by
  rw [splitList_append first (by simp [mark]), splitList_mark]
  simp

/-- The characters of the mark do not occur in identities. -/
theorem mark_not_mem_toText (id : Uuid) : ∀ c ∈ mark, c ∉ id.toText.toList := by
  intro c hc
  rcases List.mem_cons.1 hc with rfl | hc
  · exact Uuid.not_mem_toText (by decide) (by decide) id
  · rw [List.mem_singleton.1 hc]
    exact Uuid.not_mem_toText (by decide) (by decide) id

theorem length_mark_le (id : Uuid) : mark.length ≤ id.toText.toList.length := by
  rw [Uuid.length_toText]
  decide

/-! ## Keys below a marked base -/

section Marked

variable {base : String} (marked : mark <:+: base.toList) (name : String)
include marked

/-- What stands around the first mark of the template and before the last one, and what becomes of
it in a key. -/
theorem exists_around_mark (id : Uuid) : ∃ a rest, ¬ mark <:+: a ∧
    a ++ mark <+: folder base name ∧
    (forModel base name).text.toList = a ++ (mark ++ (rest ++ '/' :: mark)) ∧
    ((forModel base name).key id).toList = a ++ (id.toText.toList ++
      (fillList id.toText.toList rest ++ '/' :: id.toText.toList)) := by
  obtain ⟨a, b, eq, first⟩ := exists_first_mark marked
  have text : (forModel base name).text.toList =
      a ++ (mark ++ ((b ++ '/' :: (name.toList ++ '/' :: "items".toList)) ++ '/' :: mark)) := by
    rw [text_forModel, folder, eq]
    simp
  have last : fillList id.toText.toList mark = id.toText.toList := by simp [mark, fillList]
  refine ⟨a, _, first, ?_, text, ?_⟩
  · rw [folder, eq]
    exact ⟨b ++ '/' :: (name.toList ++ '/' :: "items".toList), by simp⟩
  · rw [KeyTemplate.key, String.toList_ofList, text, fillList_append first (by simp [mark]),
      fillList_mark, fillList_slash, last]

/-- The identity cannot be told from a key. -/
theorem id?_key_marked (id : Uuid) :
    (forModel base name).id? ((forModel base name).key id) = none := by
  obtain ⟨a, rest, first, -, text, key⟩ := exists_around_mark marked name id
  have split := splitList_first_mark first (rest ++ '/' :: mark)
  -- What follows the first mark ends with a mark, and the key ends with the identity.
  have ending : ¬ (rest ++ '/' :: mark) <:+ (id.toText.toList ++
      (fillList id.toText.toList rest ++ '/' :: id.toText.toList)) := by
    intro suffix
    have within : mark <:+ id.toText.toList := by
      refine List.suffix_of_suffix_length_le (.trans ?_ suffix) ?_ (length_mark_le id)
      · exact ⟨rest ++ ['/'], by simp⟩
      · exact ⟨id.toText.toList ++ (fillList id.toText.toList rest ++ ['/']), by simp⟩
    exact mark_not_mem_toText id 'u' (by decide) (within.subset (by decide))
  unfold id?
  rw [text, split, key]
  simp [dropStart?, dropEnd?, ending]

/-- No key lies below the common base. -/
theorem isBelow_key_marked (id : Uuid) :
    Key.isBelow ((forModel base name).key id) (forModel base name).base = false := by
  obtain ⟨a, rest, -, start, -, key⟩ := exists_around_mark marked name id
  rw [Bool.eq_false_iff]
  intro below
  have above : folder base name <+: ((forModel base name).key id).toList := by
    have above := Key.prefix_of_isBelow below
    rwa [base_forModel, String.toList_ofList] at above
  -- The base has a mark where the key has the identity.
  have both := start.trans above
  rw [key, List.prefix_append_right_inj] at both
  have within : mark <+: id.toText.toList :=
    List.prefix_of_prefix_length_le both (List.prefix_append _ _) (length_mark_le id)
  exact mark_not_mem_toText id '%' (by decide) (within.subset (by decide))

end Marked

/-! ## All bases -/

/-- The key of an item of a model gives back the identity and lies below the common base, unless the
base of all keys has a mark for an identity; then it does neither. -/
theorem key_invertible (base : String) {name : String} (named : isIdentifier name = true)
    (id : Uuid) :
    let t := forModel base name
    (¬ mark <:+: base.toList →
      t.id? (t.key id) = some id ∧ Key.isBelow (t.key id) t.base = true) ∧
      (mark <:+: base.toList →
        t.id? (t.key id) = none ∧ Key.isBelow (t.key id) t.base = false) := by
  refine ⟨fun unmarked => ?_, fun marked => ?_⟩
  · exact ⟨id?_key unmarked named id, isBelow_key unmarked named id⟩
  · exact ⟨id?_key_marked marked name id, isBelow_key_marked marked name id⟩

/-- The configuration in which the base of all keys has a mark. -/
def markedConfig : String := "\x7b\x22dataPrefix\x22: \x22a%u\x22\x7d"

/-- An identity that cannot be told from its key. -/
theorem key_invertible_marked :
    isIdentifier "Note" = true ∧
      (forModel "a%u" "Note").id? ((forModel "a%u" "Note").key ⟨5, by decide⟩) = none := by
  have named : isIdentifier "Note" = true := by decide
  have marked : mark <:+: "a%u".toList := by decide
  exact ⟨named, ((key_invertible "a%u" named ⟨5, by decide⟩).2 marked).1⟩

/-- Not for every configured base the identities can be told from the keys. -/
theorem configured_key_lost :
    ¬ ∀ (text : String) (c : Config) (name : String) (id : Uuid), Config.ofText text = .ok c →
      isIdentifier name = true →
      (forModel c.keyBase name).id? ((forModel c.keyBase name).key id) = some id ∧
        Key.isBelow ((forModel c.keyBase name).key id) (forModel c.keyBase name).base = true := by
  intro all
  have accepted : (Config.ofText markedConfig).toOption.map (·.keyBase) = some "a%u" := by
    decide +kernel
  cases read : Config.ofText markedConfig with
  | error e => exact absurd accepted (by simp [read, Except.toOption])
  | ok c =>
    have keyBase : c.keyBase = "a%u" := by simpa [read, Except.toOption] using accepted
    have lost := (all markedConfig c "Note" ⟨5, by decide⟩ read (by decide)).1
    rw [keyBase] at lost
    exact absurd lost (by decide +kernel)

end KeyTemplate

end EntityStore
