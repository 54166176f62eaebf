import EntityStore.Model
import EntityStore.Proofs.Storage.Key
import EntityStore.Proofs.Uuid

set_option autoImplicit false

/-! # Keys of items, and back

The keys of the items of a model differ in the identity only. If the base of all keys has no mark
for an identity, the keys of items lie below a common one (`isBelow_key`), and the identity can be
told from a key (`id?_key`). -/

namespace EntityStore.KeyTemplate

/-! ## Marks -/

/-- What does not start as the mark does has no mark at its start. -/
theorem not_mark_of_forall {c : Char} {rest : List Char}
    (other : ∀ tail, c = '%' → rest = 'u' :: tail → False) : ¬ mark <+: c :: rest := by
  rintro ⟨tail, eq⟩
  obtain ⟨rfl, rfl⟩ : '%' = c ∧ 'u' :: tail = rest := by simpa [mark] using eq
  exact other tail rfl rfl

theorem fillList_cons {id rest : List Char} {c : Char} (h : ¬ mark <+: c :: rest) :
    fillList id (c :: rest) = c :: fillList id rest := by
  rw [fillList]
  rintro tail rfl rfl
  exact h ⟨tail, rfl⟩

theorem splitList_cons {rest : List Char} {c : Char} (h : ¬ mark <+: c :: rest) :
    splitList (c :: rest) = (splitList rest).map fun (a, b) => (c :: a, b) := by
  rw [splitList]
  rintro tail rfl rfl
  exact h ⟨tail, rfl⟩

/-- No mark starts in a text without marks, unless the text after it completes one. -/
theorem not_mark_start {c : Char} {a b : List Char} (ha : ¬ mark <:+: c :: a)
    (hb : b.head? ≠ some 'u') : ¬ mark <+: c :: (a ++ b) := by
  rintro ⟨tail, eq⟩
  rcases a with _ | ⟨d, a⟩
  -- Only the first character of `b` could complete a mark that starts at the end.
  · rcases b with _ | ⟨d, b⟩
    · exact absurd eq (by simp [mark])
    · obtain ⟨-, rfl, -⟩ : '%' = c ∧ 'u' = d ∧ tail = b := by simpa [mark] using eq
      exact hb rfl
  · obtain ⟨rfl, rfl, -⟩ : '%' = c ∧ 'u' = d ∧ tail = a ++ b := by simpa [mark] using eq
    exact ha ⟨[], a, rfl⟩

theorem fillList_append {a b : List Char} (ha : ¬ mark <:+: a) (hb : b.head? ≠ some 'u')
    (id : List Char) : fillList id (a ++ b) = a ++ fillList id b := by
  induction a with
  | nil => rfl
  | cons c a ih =>
    have rest : ¬ mark <:+: a := fun h => ha (List.infix_cons h)
    rw [List.cons_append, fillList_cons (not_mark_start ha hb), ih rest, List.cons_append]

theorem splitList_append {a b : List Char} (ha : ¬ mark <:+: a) (hb : b.head? ≠ some 'u') :
    splitList (a ++ b) = (splitList b).map fun (x, y) => (a ++ x, y) := by
  induction a with
  | nil => simp
  | cons c a ih =>
    have rest : ¬ mark <:+: a := fun h => ha (List.infix_cons h)
    rw [List.cons_append, splitList_cons (not_mark_start ha hb), ih rest, Option.map_map]
    rfl

theorem dropEnd?_append (s ending : List Char) : dropEnd? ending (s ++ ending) = some s := by
  simp [dropEnd?]

/-- There is no mark in a text without the character that starts it. -/
theorem unmarked_of_not_mem {s : List Char} (h : '%' ∉ s) : ¬ mark <:+: s :=
  fun found => h (found.subset (by decide))

theorem not_mark_append {a b : List Char} (ha : ¬ mark <:+: a) (hb : ¬ mark <:+: b)
    (head : b.head? ≠ some 'u') : ¬ mark <:+: a ++ b := by
  induction a with
  | nil => exact hb
  | cons c a ih =>
    have rest : ¬ mark <:+: a := fun h => ha (List.infix_cons h)
    rw [List.cons_append, List.infix_cons_iff, not_or]
    exact ⟨not_mark_start ha head, ih rest⟩

/-! ## Names of models -/

theorem isIdentifier_chars {name : String} (h : isIdentifier name = true) :
    name.toList ≠ [] ∧ ∀ c ∈ name.toList, (c.isAlphanum || c == '_') = true := by
  unfold isIdentifier at h
  split at h
  · exact absurd h (by simp)
  · next c rest eq =>
    rw [Bool.and_eq_true, List.all_eq_true] at h
    rw [eq]
    refine ⟨by simp, fun d hd => ?_⟩
    rcases List.mem_cons.1 hd with rfl | hd
    · rw [Char.isAlphanum, Bool.or_assoc, Bool.or_comm d.isDigit, ← Bool.or_assoc, h.1,
        Bool.true_or]
    · exact h.2 d hd

theorem not_mem_of_isIdentifier {name : String} (h : isIdentifier name = true) {c : Char}
    (hc : (c.isAlphanum || c == '_') = false) : c ∉ name.toList :=
  fun mem => absurd ((isIdentifier_chars h).2 c mem) (by rw [hc]; decide)

/-! ## Templates of models -/

/-- The text of the key below which the items of a model with a name are. -/
def folder (base name : String) : List Char :=
  base.toList ++ '/' :: (name.toList ++ '/' :: "items".toList)

theorem text_forModel (base name : String) :
    (forModel base name).text.toList = folder base name ++ '/' :: mark := by
  have parts : (forModel base name).text = base ++ "/" ++ name ++ "/items/%u" := rfl
  simp [parts, folder, mark]

theorem base_forModel (base name : String) :
    (forModel base name).base = String.ofList (folder base name) := by
  have start : dropEnd? mark (forModel base name).text.toList =
      some (folder base name ++ ['/']) := by
    rw [text_forModel, ← dropEnd?_append, List.append_assoc]
    rfl
  unfold KeyTemplate.base
  rw [start]
  simp [folder, List.dropWhile]

section Model

variable {base name : String}

theorem not_mark_folder (unmarked : ¬ mark <:+: base.toList) (named : isIdentifier name = true) :
    ¬ mark <:+: folder base name ++ ['/'] := by
  -- Neither the name nor the fixed parts have the character of the mark.
  have absent : '%' ∉ name.toList := not_mem_of_isIdentifier named (by decide)
  rw [folder, List.append_assoc]
  exact not_mark_append unmarked (unmarked_of_not_mem (by simpa using absent)) (by simp)

theorem key_forModel (unmarked : ¬ mark <:+: base.toList) (named : isIdentifier name = true)
    (id : Uuid) :
    ((forModel base name).key id).toList = folder base name ++ '/' :: id.toText.toList := by
  have last : fillList id.toText.toList mark = id.toText.toList := by simp [mark, fillList]
  rw [key, String.toList_ofList, text_forModel, List.append_cons,
    fillList_append (not_mark_folder unmarked named) (by decide), last, ← List.append_cons]

theorem splitList_forModel (unmarked : ¬ mark <:+: base.toList)
    (named : isIdentifier name = true) :
    splitList (forModel base name).text.toList = some (folder base name ++ ['/'], []) := by
  have last : splitList mark = some ([], []) := by simp [mark, splitList]
  rw [text_forModel, List.append_cons,
    splitList_append (not_mark_folder unmarked named) (by decide), last]
  simp

/-- The identity can be told from a key. -/
theorem id?_key (unmarked : ¬ mark <:+: base.toList) (named : isIdentifier name = true)
    (id : Uuid) : (forModel base name).id? ((forModel base name).key id) = some id := by
  unfold id?
  rw [splitList_forModel unmarked named, key_forModel unmarked named, List.append_cons]
  simp [dropStart?, dropEnd?, Uuid.ofText?_toText]

theorem isBelow_key (unmarked : ¬ mark <:+: base.toList) (named : isIdentifier name = true)
    (id : Uuid) : Key.isBelow ((forModel base name).key id) (forModel base name).base = true := by
  rw [← String.ofList_toList (s := (forModel base name).key id), key_forModel unmarked named,
    base_forModel]
  exact Key.isBelow_append _ _

end Model

end EntityStore.KeyTemplate
