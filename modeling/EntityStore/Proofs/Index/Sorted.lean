import EntityStore.Proofs.Index.Current
import EntityStore.Proofs.ScalarType.Sort

set_option autoImplicit false

/-! # Sorted indices stay sorted

The place of a new entry is found by halving. That is the right place if the entries before it are
those that come first (`partitionPoint_spec`), and they are if the index is sorted and its type
sorts the values without contradiction. So every sequence of changes with such values leaves a
sorted index (`inOrder_run`), and which list it is depends only on the values that are left, not on
how they came there (`sorted_run`). -/

namespace EntityStore

theorem Uuid.eq_of_number {a b : Uuid} (h : a.number = b.number) : a = b := by
  cases a
  cases b
  subst h
  rfl

namespace SortedIndex

/-! ## Halving -/

section Halving

variable {α : Type} {l : List α} {test : α → Bool}

/-- Once failed, the test fails for all further entries. -/
def Partitioned (l : List α) (test : α → Bool) : Prop :=
  l.Pairwise fun a b => test b = true → test a = true

/-- The entries before a place pass the test, and the others fail. -/
def Parts (l : List α) (test : α → Bool) (place : Nat) : Prop :=
  (∀ i a, i < place → l[i]? = some a → test a = true) ∧
  ∀ i a, place ≤ i → l[i]? = some a → test a = false

theorem Partitioned.passes (h : Partitioned l test) {i j : Nat} {a b : α} (le : i ≤ j)
    (ha : l[i]? = some a) (hb : l[j]? = some b) (passed : test b = true) : test a = true := by
  rcases le.eq_or_lt with rfl | lt
  · obtain rfl : a = b := Option.some.inj (ha.symm.trans hb)
    exact passed
  · obtain ⟨hi, rfl⟩ := List.getElem?_eq_some_iff.1 ha
    obtain ⟨hj, rfl⟩ := List.getElem?_eq_some_iff.1 hb
    exact List.pairwise_iff_getElem.1 h i j hi hj lt passed

/-- Halving keeps the place between entries that pass and entries that fail. -/
theorem parts_halve (h : Partitioned l test) {base size : Nat} (within : base + size ≤ l.length)
    (before : ∀ i a, i < base → l[i]? = some a → test a = true)
    (behind : ∀ i a, base + size ≤ i → l[i]? = some a → test a = false) :
    Parts l test (halve l test base size) := by
  induction size using Nat.strong_induction_on generalizing base with
  | _ size ih =>
    unfold halve
    split
    · next small =>
      cases found : l[base]?.any test with
      | true =>
        obtain ⟨b, hb, passed⟩ := (Option.any_eq_true ..).1 found
        refine ⟨fun i a lt ha => ?_, fun i a le ha => ?_⟩
        · exact h.passes (by simp at lt; omega) ha hb passed
        · exact behind i a (by simp at le; omega) ha
      | false =>
        refine ⟨fun i a lt ha => before i a (by simpa using lt) ha, fun i a le ha => ?_⟩
        by_cases here : i = base
        · rw [← here, ha] at found
          exact found
        · exact behind i a (by simp at le; omega) ha
    · next large =>
      dsimp only
      have inside : base + size / 2 < l.length := by omega
      have middle := List.getElem?_eq_getElem inside
      rw [middle, Option.any_some]
      cases passed : test l[base + size / 2] with
      | true =>
        refine ih _ (by omega) (by simp; omega) (fun i a lt ha => ?_) fun i a le ha => ?_
        · exact h.passes (by simp at lt; omega) ha middle passed
        · exact behind i a (by simp at le; omega) ha
      | false =>
        refine ih _ (by omega) (by simp; omega) before fun i a le ha => ?_
        rw [Bool.eq_false_iff]
        intro passes
        have fails := h.passes (by simp at le; omega) middle ha passes
        exact absurd fails (by simp [passed])

/-- In a list that a test splits in two, the place that is found lies between the two parts. -/
theorem parts_partitionPoint (h : Partitioned l test) : Parts l test (partitionPoint l test) :=
  parts_halve h (by omega) (fun i a lt _ => absurd lt (by omega)) fun i a le ha => by
    rw [List.getElem?_eq_none (by omega)] at ha
    exact absurd ha (by simp)

theorem Parts.of_mem_take {place : Nat} (h : Parts l test place) {a : α} (ha : a ∈ l.take place) :
    test a = true := by
  obtain ⟨i, hi⟩ := List.mem_iff_getElem?.1 ha
  rw [List.getElem?_take] at hi
  split at hi
  · next lt => exact h.1 i a lt hi
  · exact absurd hi (by simp)

theorem Parts.of_mem_drop {place : Nat} (h : Parts l test place) {a : α} (ha : a ∈ l.drop place) :
    test a = false := by
  obtain ⟨i, hi⟩ := List.mem_iff_getElem?.1 ha
  rw [List.getElem?_drop] at hi
  exact h.2 _ a (by omega) hi

end Halving

/-! ## The order of entries -/

/-- An entry comes before another one: its value is sorted before the other value, or the two are
level and its identity is the lesser one. -/
def Precedes (t : ScalarType) (e f : Value × Uuid) : Prop :=
  t.sort e.1 f.1 = .lt ∨ t.sort e.1 f.1 = .eq ∧ e.2.number < f.2.number

theorem isBefore_iff {t : ScalarType} {v : Value} {id : Uuid} {e : Value × Uuid} :
    isBefore t v id e = true ↔ Precedes t e (v, id) := by
  unfold isBefore Precedes
  cases t.sort e.1 v <;> simp

namespace Precedes

variable {t : ScalarType} {among : Value → Prop} {e f g : Value × Uuid}

theorem sort_ne_gt (h : Precedes t e f) : t.sort e.1 f.1 ≠ .gt := by
  rcases h with lt | ⟨eq, -⟩
  · simp [lt]
  · simp [eq]

theorem asymm (h : Precedes t e f) : ¬ Precedes t f e := by
  unfold Precedes
  rw [t.sort_swap e.1 f.1]
  rcases h with lt | ⟨eq, less⟩
  · simp [lt]
  · simp [eq, less.le]

/-- Of the entries of two items, one comes before the other. -/
theorem of_not (other : e.2 ≠ f.2) (h : ¬ Precedes t f e) : Precedes t e f := by
  have differ : e.2.number ≠ f.2.number := fun same => other (Uuid.eq_of_number same)
  unfold Precedes at h ⊢
  rw [t.sort_swap e.1 f.1] at h
  cases sorted : t.sort e.1 f.1 with
  | lt => exact .inl rfl
  | eq =>
    simp only [sorted, Ordering.swap_eq, reduceCtorEq, true_and, false_or, not_lt] at h
    exact .inr ⟨rfl, lt_of_le_of_ne h differ⟩
  | gt => exact absurd h (by simp [sorted])

theorem trans (sorts : t.SortsTransitively among) (he : among e.1) (hf : among f.1) (hg : among g.1)
    (ef : Precedes t e f) (fg : Precedes t f g) : Precedes t e g := by
  have forth := sorts _ _ _ he hf hg ef.sort_ne_gt fg.sort_ne_gt
  cases sorted : t.sort e.1 g.1 with
  | lt => exact .inl sorted
  | gt => exact absurd sorted forth
  | eq =>
    -- The first and the last value are level, so the one between them is level with both.
    have back : t.sort g.1 e.1 ≠ .gt := by simp [t.sort_swap e.1 g.1, sorted]
    have fe := sorts _ _ _ hf hg he fg.sort_ne_gt back
    have gf := sorts _ _ _ hg he hf back ef.sort_ne_gt
    rw [t.sort_swap e.1 f.1] at fe
    rw [t.sort_swap f.1 g.1] at gf
    rcases ef with lt | ⟨-, ef⟩
    · exact absurd (by simp [lt]) fe
    rcases fg with lt | ⟨-, fg⟩
    · exact absurd (by simp [lt]) gf
    exact .inr ⟨sorted, ef.trans fg⟩

end Precedes

/-- The entries are sorted strictly. -/
def InOrder (index : SortedIndex) : Prop := index.entries.Pairwise (Precedes index.type)

section InOrder

variable {index : SortedIndex} {among : Value → Prop}

theorem InOrder.remove (h : index.InOrder) (id : Uuid) : (index.remove id).InOrder :=
  h.sublist List.filter_sublist

/-- A new entry is put where it belongs. -/
theorem InOrder.insert (h : index.InOrder) (sorts : index.type.SortsTransitively among)
    (known : ∀ e ∈ index.entries, among e.1) (id : Uuid) {v : Value} (hv : among v) :
    (index.insert id v).InOrder := by
  have rest : (index.remove id).entries.Pairwise (Precedes index.type) := h.remove id
  have kept : ∀ e ∈ (index.remove id).entries, among e.1 ∧ e.2 ≠ id := by
    intro e he
    obtain ⟨before, other⟩ := mem_remove.1 he
    exact ⟨known e before, other⟩
  have partitioned : Partitioned (index.remove id).entries (isBefore index.type v id) := by
    refine rest.imp_of_mem fun {a b} ha hb ab passed => ?_
    rw [isBefore_iff] at passed ⊢
    exact ab.trans sorts (kept a ha).1 (kept b hb).1 hv passed
  have parts := parts_partitionPoint partitioned
  unfold InOrder SortedIndex.insert
  dsimp only
  generalize partitionPoint (index.remove id).entries (isBefore index.type v id) = place at parts
  have cut := (List.take_append_drop place (index.remove id).entries).symm
  rw [cut, List.pairwise_append] at rest
  obtain ⟨front, back, across⟩ := rest
  refine List.pairwise_append.2 ⟨front, List.pairwise_cons.2 ⟨fun e he => ?_, back⟩, ?_⟩
  · have fails : ¬ Precedes index.type e (v, id) := by
      rw [← isBefore_iff, parts.of_mem_drop he]
      exact Bool.false_ne_true
    exact Precedes.of_not (kept e (List.mem_of_mem_drop he)).2.symm fails
  · intro e he f hf
    rcases List.mem_cons.1 hf with rfl | hf
    · exact isBefore_iff.1 (parts.of_mem_take he)
    · exact across e he f hf

/-- What an index holds determines the list of its entries, if they are sorted. -/
theorem InOrder.entries_eq {other : SortedIndex} {values : Uuid → Option Value}
    (h : index.InOrder) (ho : other.InOrder) (type : other.type = index.type)
    (holds : index.Represents values) (holdsOther : other.Represents values) :
    index.entries = other.entries := by
  unfold InOrder at ho
  rw [type] at ho
  exact List.Perm.eq_of_pairwise (fun e f _ _ ef fe => absurd fe ef.asymm) h ho
    (holds.perm holdsOther)

end InOrder

/-! ## Changes -/

/-- A change of an index. -/
inductive Change
  | insert (id : Uuid) (v : Value)
  | remove (id : Uuid)
  | clear

/-- What a change does to an index. -/
def Change.apply (index : SortedIndex) : Change → SortedIndex
  | insert id v => index.insert id v
  | remove id => index.remove id
  | clear => index.clear

/-- What a change does to the values that are known of the items. -/
def Change.track (known : Uuid → Option Value) : Change → Uuid → Option Value
  | insert id v, other => if other = id then some v else known other
  | remove id, other => if other = id then none else known other
  | clear, _ => none

/-- The index after changes, one after the other. -/
def run (index : SortedIndex) (changes : List Change) : SortedIndex :=
  changes.foldl Change.apply index

/-- The value that was inserted last for each item, and neither removed nor cleared since. -/
def left (changes : List Change) : Uuid → Option Value := changes.foldl Change.track fun _ => none

/-- Changes are made to the entries only. -/
theorem run_frame (index : SortedIndex) (changes : List Change) :
    index.run changes = { index with entries := (index.run changes).entries } := by
  induction changes generalizing index with
  | nil => rfl
  | cons change rest ih =>
    rw [run, List.foldl_cons]
    exact (ih _).trans (by cases change <;> rfl)

theorem Represents.run {index : SortedIndex} {values : Uuid → Option Value}
    (h : index.Represents values) (changes : List Change) :
    (index.run changes).Represents (changes.foldl Change.track values) := by
  induction changes generalizing index values with
  | nil => exact h
  | cons change rest ih =>
    suffices next : (Change.apply index change).Represents (Change.track values change) from ih next
    cases change with
    | insert id v => exact h.insert id v
    | remove id => exact h.remove id
    | clear => exact .of_nil rfl

/-- Changes with values that the type sorts without contradiction keep an index sorted. -/
theorem InOrder.run {among : Value → Prop} {index : SortedIndex} (h : index.InOrder)
    (sorts : index.type.SortsTransitively among) (known : ∀ e ∈ index.entries, among e.1)
    {changes : List Change} (given : ∀ id v, .insert id v ∈ changes → among v) :
    (index.run changes).InOrder := by
  induction changes generalizing index with
  | nil => exact h
  | cons change rest ih =>
    have later : ∀ id v, .insert id v ∈ rest → among v := fun id v hv => given id v (.tail _ hv)
    -- The rest finds the index in order, with values that are known to the type.
    suffices next : (change.apply index).InOrder ∧ (change.apply index).type = index.type ∧
        ∀ e ∈ (change.apply index).entries, among e.1 by
      obtain ⟨inOrder, type, entries⟩ := next
      exact ih inOrder (type ▸ sorts) entries later
    cases change with
    | insert id v =>
      have hv := given id v (.head _)
      refine ⟨h.insert sorts known id hv, rfl, fun e he => ?_⟩
      rcases mem_insert.1 he with rfl | ⟨before, -⟩
      · exact hv
      · exact known e before
    | remove id => exact ⟨h.remove id, rfl, fun e he => known e (mem_remove.1 he).1⟩
    | clear => exact ⟨.nil, rfl, fun e he => absurd he List.not_mem_nil⟩

/-- An index without entries. -/
def empty (c : Comparison) (t : ScalarType) : SortedIndex := { comparison := c, type := t }

theorem represents_run (c : Comparison) (t : ScalarType) (changes : List Change) :
    ((empty c t).run changes).Represents (left changes) :=
  (Represents.of_nil rfl : (empty c t).Represents _).run changes

theorem inOrder_run {t : ScalarType} {among : Value → Prop} (sorts : t.SortsTransitively among)
    (c : Comparison) {changes : List Change} (given : ∀ id v, .insert id v ∈ changes → among v) :
    ((empty c t).run changes).InOrder := by
  have start : (empty c t).InOrder := .nil
  exact start.run sorts (fun _ he => absurd he List.not_mem_nil) given

/-- Every index over a type with a name, after all changes with values that the type yields, whether
they are missing or not. No item has two entries, and the entry of an item has the value that was
left of it; entries are sorted strictly by value and then by identity, the missing values last; any
other changes that leave the same values give the same list; and a look-up gives the items whose
values pass the comparison, in this order. -/
theorem sorted_run {t : ScalarType} (named : t ∈ ScalarType.all) (c : Comparison)
    {changes : List Change} (yielded : ∀ id v, .insert id v ∈ changes → t.Yields v) :
    let index := (empty c t).run changes
    (index.entries.map (·.2)).Nodup ∧
    (∀ v id, (v, id) ∈ index.entries ↔ left changes id = some v) ∧
    index.entries.Pairwise (Precedes t) ∧
    (index.entries.Pairwise fun e f =>
      Comparison.isMissing e.1 = true → Comparison.isMissing f.1 = true) ∧
    (∀ (c' : Comparison) (others : List Change),
      (∀ id v, .insert id v ∈ others → t.Yields v) → (∀ id, left others id = left changes id) →
      ((empty c' t).run others).entries = index.entries) ∧
    ∀ operands,
      ((index.find operands).Pairwise fun id other => ∃ v w,
        left changes id = some v ∧ left changes other = some w ∧ Precedes t (v, id) (w, other)) ∧
      ∀ id, id ∈ index.find operands ↔
        ∃ v, left changes id = some v ∧ t.compare c v operands = true := by
  intro index
  have sorts := ScalarType.sortsTransitively_yields named
  have represents : index.Represents (left changes) := represents_run c t changes
  have type : index.type = t := congrArg SortedIndex.type (run_frame (empty c t) changes)
  have comparison : index.comparison = c :=
    congrArg SortedIndex.comparison (run_frame (empty c t) changes)
  have inOrder : index.InOrder := inOrder_run sorts c yielded
  have sorted : index.entries.Pairwise (Precedes t) := type ▸ inOrder
  refine ⟨represents.nodup, represents.mem_iff, sorted, ?_, ?_, fun operands => ⟨?_, ?_⟩⟩
  · refine sorted.imp fun {e f} ef missing => ?_
    by_contra present
    -- A value that is there would be sorted before a missing one.
    refine ef.sort_ne_gt ?_
    rw [ScalarType.sort, (Comparison.sort_of_isMissing t.order missing f.1).1, if_neg present]
  · intro c' others yieldedOthers same
    have representsOthers := (represents_run c' t others).congr same
    have inOrderOthers : ((empty c' t).run others).InOrder := inOrder_run sorts c' yieldedOthers
    have typeOthers := congrArg SortedIndex.type (run_frame (empty c' t) others)
    exact (inOrder.entries_eq inOrderOthers (typeOthers.trans type.symm) represents
      representsOthers).symm
  · unfold find
    rw [List.pairwise_map]
    refine (sorted.sublist List.filter_sublist).imp_of_mem fun {e f} he hf ef => ?_
    exact ⟨e.1, f.1, (represents.mem_iff ..).1 (List.mem_of_mem_filter he),
      (represents.mem_iff ..).1 (List.mem_of_mem_filter hf), ef⟩
  · have found := (represents.find operands).2
    rwa [type, comparison] at found

/-! Grades of four items. The first item gets two grades, and the last one loses its own. -/

/-- Grades as they come in. -/
def gradeChanges : List Change :=
  [.insert (.ofNat 3) .null, .insert (.ofNat 1) (.integer 5), .insert (.ofNat 2) (.integer 2),
    .insert (.ofNat 4) .invalid, .insert (.ofNat 1) (.integer 2), .remove (.ofNat 4)]

/-- The grades that are left, in the reverse order of their items. -/
def gradesLeft : List Change :=
  [.insert (.ofNat 3) .null, .insert (.ofNat 2) (.integer 2), .insert (.ofNat 1) (.integer 2)]

/-- Whichever way the grades come in, level ones are sorted by their items, and the missing one is
the last. -/
theorem sorted_run_grades :
    ScalarType.integer ∈ ScalarType.all ∧
      (∀ id v, .insert id v ∈ gradeChanges → ScalarType.integer.Yields v) ∧
      ((empty .less .integer).run gradeChanges).entries =
        [(.integer 2, .ofNat 1), (.integer 2, .ofNat 2), (.null, .ofNat 3)] := by
  have named : ScalarType.integer ∈ ScalarType.all := by decide
  have grade : ∀ v ∈ [Value.null, .invalid, .integer 2, .integer 5],
      ScalarType.integer.coerce {} none v = v := by decide +kernel
  have yielded : ∀ id v, .insert id v ∈ gradeChanges → ScalarType.integer.Yields v := by
    intro id v given
    refine ⟨{}, none, v, grade v ?_⟩
    simp only [gradeChanges, List.mem_cons, Change.insert.injEq, reduceCtorEq, List.not_mem_nil,
      or_false] at given
    rcases given with ⟨-, rfl⟩ | ⟨-, rfl⟩ | ⟨-, rfl⟩ | ⟨-, rfl⟩ | ⟨-, rfl⟩ <;> decide
  have yieldedLeft : ∀ id v, .insert id v ∈ gradesLeft → ScalarType.integer.Yields v := by
    intro id v given
    refine ⟨{}, none, v, grade v ?_⟩
    simp only [gradesLeft, List.mem_cons, Change.insert.injEq, List.not_mem_nil, or_false] at given
    rcases given with ⟨-, rfl⟩ | ⟨-, rfl⟩ | ⟨-, rfl⟩ <;> decide
  have same : ∀ id, left gradesLeft id = left gradeChanges id := by
    intro id
    by_cases last : id = .ofNat 4
    · rw [last]
      decide +kernel
    · simp only [left, gradesLeft, gradeChanges, List.foldl_cons, List.foldl_nil, Change.track,
        last, if_false]
      split_ifs <;> rfl
  obtain ⟨-, -, -, -, determined, -⟩ := sorted_run named .less yielded
  refine ⟨named, yielded, ?_⟩
  rw [← determined .equal gradesLeft yieldedLeft same]
  decide +kernel

end SortedIndex

end EntityStore
