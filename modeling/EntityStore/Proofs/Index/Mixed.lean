import EntityStore.Proofs.Index.Sorted

set_option autoImplicit false

/-! # Indices without a type

Where no type is known, an index takes values of all kinds. Values of different kinds are level, and
so are a whole number and the number nearest to it. Being level is then not transitive, and halving
may miss the place of a new entry. `untyped_sorted_iff` says for which values this cannot happen:
all changes with some values leave a sorted index if and only if these values are sorted without
contradiction, as those of a single kind are. -/

namespace EntityStore.SortedIndex

/-- In a sorted list, an entry that does not come after another one stands before it. -/
theorem lt_of_not_related {α : Type} {R : α → α → Prop} {l : List α} (h : l.Pairwise R) {e f : α}
    {i j : Nat} (he : l[i]? = some e) (hf : l[j]? = some f) (other : e ≠ f) (not : ¬ R f e) :
    i < j := by
  obtain ⟨hi, rfl⟩ := List.getElem?_eq_some_iff.1 he
  obtain ⟨hj, rfl⟩ := List.getElem?_eq_some_iff.1 hf
  rcases lt_trichotomy i j with lt | rfl | gt
  · exact lt
  · exact absurd rfl other
  · exact absurd (List.pairwise_iff_getElem.1 h j i hj hi gt) not

/-- Three values in the order in which they are inserted, for items in the order of their
identities. -/
def threeChanges (x y z : Value) : List Change :=
  [.insert (.ofNat 1) x, .insert (.ofNat 2) y, .insert (.ofNat 3) z]

/-- An entry does not come before that of a lesser identity if the values are level or in this
order. -/
theorem not_precedes {t : ScalarType} {x y : Value} {id other : Uuid} (xy : t.sort x y ≠ .gt)
    (less : id.number < other.number) : ¬ Precedes t (y, other) (x, id) := by
  unfold Precedes
  rw [t.sort_swap x y]
  cases sorted : t.sort x y with
  | lt => simp
  | eq => simp [less.le]
  | gt => exact absurd sorted xy

/-- If three values are always sorted, however their identities are chosen, they are sorted without
contradiction. -/
theorem sort_trans_of_inOrder {t : ScalarType} {x y z : Value} (c : Comparison)
    (sorted : ((empty c t).run (threeChanges x y z)).entries.Pairwise (Precedes t))
    (xy : t.sort x y ≠ .gt) (yz : t.sort y z ≠ .gt) : t.sort x z ≠ .gt := by
  have holds := represents_run c t (threeChanges x y z)
  have entry (v : Value) (id : Uuid) (hv : left (threeChanges x y z) id = some v) :
      ∃ i, ((empty c t).run (threeChanges x y z)).entries[i]? = some (v, id) :=
    List.mem_iff_getElem?.1 ((holds.mem_iff v id).2 hv)
  obtain ⟨i, hi⟩ := entry x (.ofNat 1) rfl
  obtain ⟨j, hj⟩ := entry y (.ofNat 2) rfl
  obtain ⟨k, hk⟩ := entry z (.ofNat 3) rfl
  -- The second entry cannot stand before the first one, nor the third one before the second.
  have ij := lt_of_not_related sorted hi hj (by simp [Uuid.ofNat]) (not_precedes xy (by decide))
  have jk := lt_of_not_related sorted hj hk (by simp [Uuid.ofNat]) (not_precedes yz (by decide))
  obtain ⟨hi, first⟩ := List.getElem?_eq_some_iff.1 hi
  obtain ⟨hk, third⟩ := List.getElem?_eq_some_iff.1 hk
  have ik := List.pairwise_iff_getElem.1 sorted i k hi hk (ij.trans jk)
  rw [first, third] at ik
  exact ik.sort_ne_gt

/-- When an index without a type is sorted. All changes with some values, in whatever order and for
whatever items, leave entries that are sorted strictly by value and then by identity, if and only if
among these values what is not sorted behind a value is not sorted behind any value that this is not
sorted behind. So it is if all values that are not missing are of one kind. -/
theorem untyped_sorted_iff (among : Value → Prop) :
    ((∀ (c : Comparison) (changes : List Change), (∀ id v, .insert id v ∈ changes → among v) →
        ((empty c .any).run changes).entries.Pairwise (Precedes .any)) ↔
      ∀ x y z, among x → among y → among z → ScalarType.any.sort x y ≠ .gt →
        ScalarType.any.sort y z ≠ .gt → ScalarType.any.sort x z ≠ .gt) ∧
    ∀ (kind : String) (c : Comparison) (changes : List Change),
      (∀ id v, .insert id v ∈ changes → Comparison.isMissing v = true ∨ v.kind = kind) →
      ((empty c .any).run changes).entries.Pairwise (Precedes .any) := by
  have sorted {among : Value → Prop} (sorts : ScalarType.any.SortsTransitively among)
      (c : Comparison) (changes : List Change) (given : ∀ id v, .insert id v ∈ changes → among v) :
      ((empty c .any).run changes).entries.Pairwise (Precedes .any) := by
    have inOrder := inOrder_run sorts c given
    rwa [InOrder, congrArg SortedIndex.type (run_frame _ _)] at inOrder
  refine ⟨⟨fun always x y z hx hy hz => ?_, fun sorts => sorted sorts⟩,
    fun kind => sorted (ScalarType.sortsTransitively_ofKind kind)⟩
  refine sort_trans_of_inOrder .equal (always .equal (threeChanges x y z) fun id v given => ?_)
  simp only [threeChanges, List.mem_cons, Change.insert.injEq, List.not_mem_nil, or_false] at given
  rcases given with ⟨-, rfl⟩ | ⟨-, rfl⟩ | ⟨-, rfl⟩
  · exact hx
  · exact hy
  · exact hz

/-- Two whole numbers stand in the wrong order after a text has come between them, and so they do
after a number that is level with both. -/
theorem mixed_values_unsorted :
    ((empty .equal .any).run
        (threeChanges (.integer 5) (.string "a") (.integer 3) ++ [.remove (.ofNat 2)])).entries =
      [(.integer 5, .ofNat 1), (.integer 3, .ofNat 3)] ∧
    ScalarType.any.sort (.integer 5) (.integer 3) = .gt ∧
    ((empty .equal .any).run
        (threeChanges (.integer 9007199254740993) (.number (.ofInt 9007199254740992))
          (.integer 9007199254740992) ++ [.remove (.ofNat 2)])).entries =
      [(.integer 9007199254740993, .ofNat 1), (.integer 9007199254740992, .ofNat 3)] ∧
    ScalarType.any.sort (.integer 9007199254740993) (.integer 9007199254740992) = .gt := by
  decide +kernel

end EntityStore.SortedIndex
