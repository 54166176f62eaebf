import EntityStore.Proofs.KeyTemplate.Marked
import EntityStore.Proofs.Value.Identity

set_option autoImplicit false

/-! # Keys in which an identity is spelled in another way

The keys of items are read as generously as identities are: any written form of an identity may
stand in the place of the mark (`id?_eq_some_iff`). So not every key that is read as that of an item
is the one under which the record of the item is. Those in which the identity stands in its own form
are, and no others (`key_eq_iff_isProper`). -/

namespace EntityStore

namespace Uuid

theorem Spells.ofText? {u : Uuid} {s : List Char} (h : Spells u s) :
    ofText? (String.ofList s) = some u := by
  rw [ofText?_eq_some_iff, String.toList_ofList]
  exact h

/-- A text stands for one identifier at most. -/
theorem Spells.unique {u v : Uuid} {s : List Char} (h : Spells u s) (h' : Spells v s) : u = v :=
  Option.some.inj (h.ofText?.symm.trans h'.ofText?)

theorem Spells.ne_nil {u : Uuid} {s : List Char} (h : Spells u s) : s ≠ [] := by
  have filled {t : List Char} (text : t.map Char.toLower = u.toText.toList) : t ≠ [] := by
    rintro rfl
    exact absurd (congrArg List.length text) (by simp [u.length_toText])
  cases h with
  | plain digits =>
    rintro rfl
    exact absurd (congrArg List.length digits) (by simp [u.length_digits])
  | hyphenated text => exact filled text
  | braced text => exact List.cons_ne_nil _ _
  | urn name text => exact fun empty => filled text (List.append_eq_nil_iff.1 empty).2

/-- The character that starts a mark is in no written form. -/
theorem Spells.not_mem {u : Uuid} {s : List Char} (h : Spells u s) : '%' ∉ s := by
  have absent {t l : List Char} (lower : t.map Char.toLower = l) (other : '%' ∉ l) : '%' ∉ t :=
    fun mem => other (lower ▸ List.mem_map.2 ⟨'%', mem, by decide⟩)
  have text : '%' ∉ u.toText.toList := not_mem_toText (by decide) (by decide) u
  cases h with
  | plain digits =>
    refine absent digits fun mem => ?_
    obtain ⟨d, hd, eq⟩ := mem_hexText mem
    revert d
    decide
  | hyphenated lower => exact absent lower text
  | braced lower => simpa using absent lower text
  | urn name lower =>
    rw [List.mem_append, not_or]
    exact ⟨absent name (by decide), absent lower text⟩

/-- No written form starts as a mark does. -/
theorem Spells.not_mark {u : Uuid} {s : List Char} (h : Spells u s) (rest : List Char) :
    ¬ KeyTemplate.mark <+: s ++ rest := by
  rintro ⟨tail, eq⟩
  obtain ⟨c, s, rfl⟩ := List.exists_cons_of_ne_nil h.ne_nil
  obtain rfl : '%' = c := (List.cons.inj eq).1
  exact h.not_mem List.mem_cons_self

/-- The text of an identifier is the one of its written forms that has hyphens in their places and
no capital letters. -/
theorem Spells.eq_toText_iff {u : Uuid} {text : String} (h : Spells u text.toList) :
    text = u.toText ↔ IsDashed text ∧ text.toLower = text := by
  constructor
  · rintro rfl
    exact ⟨u.roundTrips.dashed, u.roundTrips.lower⟩
  · rintro ⟨dashed, lower⟩
    obtain ⟨v, same⟩ := isCanonicalText_iff.1 (isCanonicalText_iff_isDashed.2 dashed)
    obtain rfl := h.unique (.hyphenated same)
    rw [← lower]
    exact toLower_eq_iff.2 same

end Uuid

namespace KeyTemplate

/-! ## Which keys are read -/

theorem dropStart?_eq_some_iff {start s rest : List Char} :
    dropStart? start s = some rest ↔ s = start ++ rest := by
  unfold dropStart?
  rw [Option.ite_none_right_eq_some, List.isPrefixOf_iff_prefix]
  constructor
  · rintro ⟨⟨tail, rfl⟩, dropped⟩
    rw [List.drop_left] at dropped
    rw [Option.some.inj dropped]
  · rintro rfl
    exact ⟨List.prefix_append _ _, congrArg some List.drop_left⟩

theorem dropEnd?_eq_some_iff {ending s rest : List Char} :
    dropEnd? ending s = some rest ↔ s = rest ++ ending := by
  constructor
  · intro dropped
    unfold dropEnd? at dropped
    rw [Option.ite_none_right_eq_some, List.isSuffixOf_iff_suffix] at dropped
    obtain ⟨⟨front, rfl⟩, rest⟩ := dropped
    simpa using rest
  · rintro rfl
    exact dropEnd?_append rest ending

/-- A key is read as that of an item if the identity stands in the place of the first mark, in any
of its written forms. -/
theorem id?_eq_some_iff {t : KeyTemplate} {key : String} {id : Uuid} :
    t.id? key = some id ↔ ∃ start ending s, splitList t.text.toList = some (start, ending) ∧
      key.toList = start ++ (s ++ ending) ∧ Uuid.Spells id s := by
  unfold id?
  simp only [Option.bind_eq_bind, Option.bind_eq_some_iff, dropStart?_eq_some_iff,
    dropEnd?_eq_some_iff, Uuid.ofText?_eq_some_iff, String.toList_ofList]
  constructor
  · rintro ⟨⟨start, ending⟩, split, rest, eq, s, rfl, spells⟩
    exact ⟨start, ending, s, split, eq, spells⟩
  · rintro ⟨start, ending, s, split, eq, spells⟩
    exact ⟨(start, ending), split, s ++ ending, eq, s, rfl, spells⟩

/-- Below the common base, and in the form in which the keys of items are written. -/
def IsProper (t : KeyTemplate) (key : String) : Prop :=
  ∃ text, key = t.base ++ "/" ++ text ∧ Uuid.IsDashed text ∧ text.toLower = text

section Model

variable {base name key : String} {id : Uuid}

/-- Below a base without marks, the keys of items are read in every written form of the identity. -/
theorem id?_forModel_iff (unmarked : ¬ mark <:+: base.toList) (named : isIdentifier name = true) :
    (forModel base name).id? key = some id ↔
      ∃ text : String, key = (forModel base name).base ++ "/" ++ text ∧
        Uuid.Spells id text.toList := by
  have split := splitList_forModel unmarked named
  rw [id?_eq_some_iff]
  constructor
  · rintro ⟨_, _, s, split', eq, spells⟩
    rw [split] at split'
    cases split'
    refine ⟨String.ofList s, String.toList_injective ?_, by rwa [String.toList_ofList]⟩
    simp [eq, base_forModel]
  · rintro ⟨text, rfl, spells⟩
    exact ⟨_, _, text.toList, split, by simp [base_forModel], spells⟩

/-- Below a base with a mark, no key is read as that of an item. -/
theorem isBelow_of_id?_marked (marked : mark <:+: base.toList)
    (read : (forModel base name).id? key = some id) :
    Key.isBelow key (forModel base name).base = false := by
  obtain ⟨a, rest, first, above, text, -⟩ := exists_around_mark marked name id
  obtain ⟨_, _, s, split, eq, spells⟩ := id?_eq_some_iff.1 read
  rw [text, splitList_first_mark first] at split
  cases split
  rw [Bool.eq_false_iff]
  intro below
  have start : folder base name <+: key.toList := by
    have start := Key.prefix_of_isBelow below
    rwa [base_forModel, String.toList_ofList] at start
  -- The base has a mark where the key has the identity.
  have both := above.trans start
  rw [eq, List.prefix_append_right_inj] at both
  exact spells.not_mark _ both

/-- A key that is read as that of an item is the one of the item if it is in the proper form. -/
theorem key_eq_iff_isProper (named : isIdentifier name = true)
    (read : (forModel base name).id? key = some id) :
    (forModel base name).key id = key ↔ (forModel base name).IsProper key := by
  by_cases marked : mark <:+: base.toList
  · -- The key of the item is not read, and the key that is read is not below the base.
    refine iff_of_false (fun same => ?_) ?_
    · rw [← same, id?_key_marked marked] at read
      exact nomatch read
    · rintro ⟨text, rfl, -⟩
      have apart := isBelow_of_id?_marked marked read
      rw [Key.isBelow_iff.2 (.inr ⟨text, rfl⟩)] at apart
      exact nomatch apart
  · obtain ⟨text, rfl, spells⟩ := (id?_forModel_iff marked named).1 read
    have own : (forModel base name).key id = (forModel base name).base ++ "/" ++ id.toText := by
      refine String.toList_injective ?_
      simp [key_forModel marked named, base_forModel]
    rw [own, String.append_right_inj, eq_comm, spells.eq_toText_iff]
    constructor
    · exact fun proper => ⟨text, rfl, proper⟩
    · rintro ⟨other, same, proper⟩
      rwa [(String.append_right_inj _).1 same]

end Model

end KeyTemplate

end EntityStore
