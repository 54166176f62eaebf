import EntityStore.Comparison
import Mathlib.Order.Compare
import Mathlib.Order.Lattice

set_option autoImplicit false

/-! # Comparisons by rank

An order of values is one by rank (`RanksBy`) if some values have a rank in a linear order and
exactly these are ordered, as their ranks are. `null` has no rank. What a comparison tells of values
is then something about their ranks (`RanksBy.less_iff` and the lemmas after it), so the laws that
tie the comparisons to each other are laws of a linear order. -/

namespace EntityStore

open Comparison

theorem Value.isNull_iff {v : Value} : v.isNull = true ↔ v = .null := by
  cases v <;> simp [isNull]

/-- Values are ordered by a rank that some of them have. -/
structure RanksBy {α : Type} [LinearOrder α] (order : Value → Value → Option Ordering)
    (rank : Value → Option α) : Prop where
  /-- Two values are ordered if both have a rank, and as their ranks are. -/
  order_eq : ∀ a b, order a b = (rank a).bind fun x => (rank b).map (Ord.compare x)
  /-- `null` has no rank. -/
  null : rank .null = none

namespace RanksBy

variable {α : Type} [LinearOrder α] {order : Value → Value → Option Ordering}
  {rank : Value → Option α} {a b c : Value} {x y : α}

/-! ## Ordered values -/

theorem order_of_ranks (h : RanksBy order rank) (hx : rank a = some x) (hy : rank b = some y) :
    order a b = some (Ord.compare x y) := by
  rw [h.order_eq, hx, hy]
  rfl

theorem ne_null (h : RanksBy order rank) (hx : rank a = some x) : a ≠ .null := by
  rintro rfl
  exact absurd (h.null.symm.trans hx) (by simp)

/-- The order passes a test if the values have ranks whose order does. -/
theorem any_order_iff (h : RanksBy order rank) (test : Ordering → Bool) :
    (order a b).any test = true ↔
      ∃ x y, rank a = some x ∧ rank b = some y ∧ test (Ord.compare x y) = true := by
  rw [h.order_eq]
  cases rank a <;> cases rank b <;> simp

theorem order_eq_none (h : RanksBy order rank) (hn : a = .null ∨ b = .null) : order a b = none := by
  rw [h.order_eq]
  rcases hn with rfl | rfl
  · rw [h.null]
    rfl
  · rw [h.null]
    cases rank a <;> rfl

/-- That `null` is not ordered need not be said. -/
theorem orderNotNull_eq (h : RanksBy order rank) (a b : Value) :
    orderNotNull order a b = order a b := by
  unfold orderNotNull
  split
  · next hn =>
    rw [Bool.or_eq_true, Value.isNull_iff, Value.isNull_iff] at hn
    rw [h.order_eq_none hn]
  · rfl

/-! ## Comparisons with one operand -/

theorem less_iff (h : RanksBy order rank) :
    less.holds order a [b] = true ↔ ∃ x y, rank a = some x ∧ rank b = some y ∧ x < y := by
  show (orderNotNull order a b).any less.accepts = true ↔ _
  rw [h.orderNotNull_eq, h.any_order_iff]
  simp only [accepts, beq_iff_eq, compare_lt_iff_lt]

theorem greater_iff (h : RanksBy order rank) :
    greater.holds order a [b] = true ↔ ∃ x y, rank a = some x ∧ rank b = some y ∧ y < x := by
  show (orderNotNull order a b).any greater.accepts = true ↔ _
  rw [h.orderNotNull_eq, h.any_order_iff]
  simp only [accepts, beq_iff_eq, compare_gt_iff_gt]

theorem equal_iff (h : RanksBy order rank) :
    equal.holds order a [b] = true ↔
      a = .null ∧ b = .null ∨ ∃ x, rank a = some x ∧ rank b = some x := by
  show (a.isNull && b.isNull || (orderNotNull order a b).any equal.accepts) = true ↔ _
  rw [h.orderNotNull_eq, Bool.or_eq_true, h.any_order_iff, Bool.and_eq_true, Value.isNull_iff,
    Value.isNull_iff]
  simp only [accepts, beq_iff_eq, compare_eq_iff_eq]
  grind

theorem atMost_iff (h : RanksBy order rank) :
    atMost.holds order a [b] = true ↔
      a = .null ∧ b = .null ∨ ∃ x y, rank a = some x ∧ rank b = some y ∧ x ≤ y := by
  show (a.isNull && b.isNull || (orderNotNull order a b).any atMost.accepts) = true ↔ _
  rw [h.orderNotNull_eq, Bool.or_eq_true, h.any_order_iff, Bool.and_eq_true, Value.isNull_iff,
    Value.isNull_iff]
  simp only [accepts, bne_iff_ne, compare_le_iff_le]

theorem atLeast_iff (h : RanksBy order rank) :
    atLeast.holds order a [b] = true ↔
      a = .null ∧ b = .null ∨ ∃ x y, rank a = some x ∧ rank b = some y ∧ y ≤ x := by
  show (a.isNull && b.isNull || (orderNotNull order a b).any atLeast.accepts) = true ↔ _
  rw [h.orderNotNull_eq, Bool.or_eq_true, h.any_order_iff, Bool.and_eq_true, Value.isNull_iff,
    Value.isNull_iff]
  simp only [accepts, bne_iff_ne, compare_ge_iff_ge]

/-! ## Between -/

/-- A value is at least the one bound and at most the other one. -/
theorem within_iff (h : RanksBy order rank) (low high : Value) :
    ((order a low).any atLeast.accepts && (order a high).any atMost.accepts) = true ↔
      ∃ x y z, rank a = some x ∧ rank low = some y ∧ rank high = some z ∧ y ≤ x ∧ x ≤ z := by
  rw [Bool.and_eq_true, h.any_order_iff, h.any_order_iff]
  simp only [accepts, bne_iff_ne, compare_le_iff_le, compare_ge_iff_ge]
  grind

/-- A value lies between two others if its rank lies between the lesser and the greater one of
theirs. -/
theorem between_iff (h : RanksBy order rank) :
    between.holds order a [b, c] = true ↔ ∃ x y z, rank a = some x ∧ rank b = some y ∧
      rank c = some z ∧ min y z ≤ x ∧ x ≤ max y z := by
  show liesBetween order a b c = true ↔ _
  unfold liesBetween
  split
  · next hn =>
    have null : a = .null ∨ b = .null ∨ c = .null := by
      simpa [Value.isNull_iff, or_assoc] using hn
    constructor
    · nofun
    · rintro ⟨x, y, z, hx, hy, hz, -⟩
      rcases null with rfl | rfl | rfl
      · exact absurd rfl (h.ne_null hx)
      · exact absurd rfl (h.ne_null hy)
      · exact absurd rfl (h.ne_null hz)
  -- Both bounds have ranks on either side, and these tell which bound is the lower one.
  · have swapped_iff {y z : α} (hy : rank b = some y) (hz : rank c = some z) :
        order b c = some .gt ↔ z < y := by
      rw [h.order_of_ranks hy hz, Option.some_inj, compare_gt_iff_gt]
    dsimp only
    split
    · next swapped =>
      rw [h.within_iff]
      constructor
      · rintro ⟨x, z, y, hx, hz, hy, low, high⟩
        have lt := (swapped_iff hy hz).1 swapped
        exact ⟨x, y, z, hx, hy, hz, by rwa [min_eq_right lt.le], by rwa [max_eq_left lt.le]⟩
      · rintro ⟨x, y, z, hx, hy, hz, low, high⟩
        have lt := (swapped_iff hy hz).1 swapped
        rw [min_eq_right lt.le] at low
        rw [max_eq_left lt.le] at high
        exact ⟨x, z, y, hx, hz, hy, low, high⟩
    · next ordered =>
      rw [h.within_iff]
      constructor
      · rintro ⟨x, y, z, hx, hy, hz, low, high⟩
        have le : y ≤ z := low.trans high
        exact ⟨x, y, z, hx, hy, hz, by rwa [min_eq_left le], by rwa [max_eq_right le]⟩
      · rintro ⟨x, y, z, hx, hy, hz, low, high⟩
        have le : y ≤ z := not_lt.1 fun lt => ordered ((swapped_iff hy hz).2 lt)
        rw [min_eq_left le] at low
        rw [max_eq_right le] at high
        exact ⟨x, y, z, hx, hy, hz, low, high⟩

/-! ## Laws -/

theorem atMost_eq (h : RanksBy order rank) (a b : Value) :
    atMost.holds order a [b] = (less.holds order a [b] || equal.holds order a [b]) := by
  rw [Bool.eq_iff_iff, Bool.or_eq_true, h.atMost_iff, h.less_iff, h.equal_iff]
  grind

theorem atLeast_eq (h : RanksBy order rank) (a b : Value) :
    atLeast.holds order a [b] = (greater.holds order a [b] || equal.holds order a [b]) := by
  rw [Bool.eq_iff_iff, Bool.or_eq_true, h.atLeast_iff, h.greater_iff, h.equal_iff]
  grind

theorem less_eq_greater (h : RanksBy order rank) (a b : Value) :
    less.holds order a [b] = greater.holds order b [a] := by
  rw [Bool.eq_iff_iff, h.less_iff, h.greater_iff]
  grind

theorem equal_comm (h : RanksBy order rank) (a b : Value) :
    equal.holds order a [b] = equal.holds order b [a] := by
  rw [Bool.eq_iff_iff, h.equal_iff, h.equal_iff]
  grind

theorem less_trans (h : RanksBy order rank) (ab : less.holds order a [b] = true)
    (bc : less.holds order b [c] = true) : less.holds order a [c] = true := by
  obtain ⟨x, y, hx, hy, xy⟩ := h.less_iff.1 ab
  obtain ⟨y', z, hy', hz, yz⟩ := h.less_iff.1 bc
  obtain rfl : y = y' := Option.some.inj (hy.symm.trans hy')
  exact h.less_iff.2 ⟨x, z, hx, hz, xy.trans yz⟩

theorem equal_trans (h : RanksBy order rank) (ab : equal.holds order a [b] = true)
    (bc : equal.holds order b [c] = true) : equal.holds order a [c] = true := by
  rw [h.equal_iff] at ab bc ⊢
  have null := h.null
  grind

/-- No comparison holds of a value and `null`, except with values that are `null` too. -/
theorem one_null (h : RanksBy order rank) (ne : a ≠ .null) {o : Comparison}
    (ho : o ∈ [equal, less, atMost, greater, atLeast]) :
    o.holds order a [.null] = false ∧ o.holds order .null [a] = false := by
  have null := h.null
  simp only [List.mem_cons, List.not_mem_nil, or_false] at ho
  rcases ho with rfl | rfl | rfl | rfl | rfl
  · simp [Bool.eq_false_iff, h.equal_iff, ne, null]
  · simp [Bool.eq_false_iff, h.less_iff, null]
  · simp [Bool.eq_false_iff, h.atMost_iff, ne, null]
  · simp [Bool.eq_false_iff, h.greater_iff, null]
  · simp [Bool.eq_false_iff, h.atLeast_iff, ne, null]

theorem between_comm (h : RanksBy order rank) (a b c : Value) :
    between.holds order a [b, c] = between.holds order a [c, b] := by
  rw [Bool.eq_iff_iff, h.between_iff, h.between_iff]
  constructor
  · rintro ⟨x, y, z, hx, hy, hz, low, high⟩
    exact ⟨x, z, y, hx, hz, hy, min_comm y z ▸ low, max_comm y z ▸ high⟩
  · rintro ⟨x, y, z, hx, hy, hz, low, high⟩
    exact ⟨x, z, y, hx, hz, hy, min_comm y z ▸ low, max_comm y z ▸ high⟩

theorem between_eq_false (h : RanksBy order rank) (hn : a = .null ∨ b = .null ∨ c = .null) :
    between.holds order a [b, c] = false := by
  rw [Bool.eq_false_iff, Ne, h.between_iff]
  have null := h.null
  grind

/-- A value lies between two bounds if it is at least the one of them and at most the other one. -/
theorem between_iff_bounds (h : RanksBy order rank) (ha : a ≠ .null) :
    between.holds order a [b, c] = true ↔
      (atLeast.holds order a [b] = true ∧ atMost.holds order a [c] = true) ∨
      (atLeast.holds order a [c] = true ∧ atMost.holds order a [b] = true) := by
  rw [h.between_iff, h.atLeast_iff, h.atMost_iff, h.atLeast_iff, h.atMost_iff]
  simp only [ha, false_and, false_or]
  constructor
  · rintro ⟨x, y, z, hx, hy, hz, low, high⟩
    rcases le_total y z with le | le
    · rw [min_eq_left le] at low
      rw [max_eq_right le] at high
      exact .inl ⟨⟨x, y, hx, hy, low⟩, x, z, hx, hz, high⟩
    · rw [min_eq_right le] at low
      rw [max_eq_left le] at high
      exact .inr ⟨⟨x, z, hx, hz, low⟩, x, y, hx, hy, high⟩
  · rintro (⟨⟨x, y, hx, hy, low⟩, x', z, hx', hz, high⟩ |
      ⟨⟨x, z, hx, hz, low⟩, x', y, hx', hy, high⟩)
    all_goals obtain rfl : x = x' := Option.some.inj (hx.symm.trans hx')
    · exact ⟨x, y, z, hx, hy, hz, (min_le_left y z).trans low, high.trans (le_max_right y z)⟩
    · exact ⟨x, y, z, hx, hy, hz, (min_le_right y z).trans low, high.trans (le_max_left y z)⟩

/-! ## Values that have ranks -/

/-- Of values with ranks, a comparison with one operand holds if the order of the ranks is as it
wants it. -/
theorem holds_eq_accepts (h : RanksBy order rank) (hx : rank a = some x) (hy : rank b = some y)
    {o : Comparison} (ho : o ∈ [less, equal, greater]) :
    o.holds order a [b] = o.accepts (Ord.compare x y) := by
  simp only [List.mem_cons, List.not_mem_nil, or_false] at ho
  rw [Bool.eq_iff_iff]
  rcases ho with rfl | rfl | rfl
  · simp [h.less_iff, hx, hy, accepts, compare_lt_iff_lt]
  · simp only [h.equal_iff, h.ne_null hx, hx, hy, accepts, beq_iff_eq, compare_eq_iff_eq]
    grind
  · simp [h.greater_iff, hx, hy, accepts, compare_gt_iff_gt]

theorem existsUnique_holds (h : RanksBy order rank) (hx : rank a = some x) (hy : rank b = some y) :
    ∃! o, o ∈ [less, equal, greater] ∧ o.holds order a [b] = true := by
  have accepted (o : Comparison) : (o ∈ [less, equal, greater] ∧ o.holds order a [b] = true) ↔
      o ∈ [less, equal, greater] ∧ o.accepts (Ord.compare x y) = true :=
    and_congr_right fun ho => by rw [h.holds_eq_accepts hx hy ho]
  simp only [accepted]
  cases Ord.compare x y with
  | lt => exact ⟨less, by decide, fun o => by cases o <;> decide⟩
  | eq => exact ⟨equal, by decide, fun o => by cases o <;> decide⟩
  | gt => exact ⟨greater, by decide, fun o => by cases o <;> decide⟩

/-- Values with ranks are sorted as they compare. -/
theorem sort_iff (h : RanksBy order rank) (ha : isMissing a = false) (hb : isMissing b = false)
    (hx : rank a = some x) (hy : rank b = some y) :
    (Comparison.sort order a b = .lt ↔ less.holds order a [b] = true) ∧
      (Comparison.sort order a b = .eq ↔ equal.holds order a [b] = true) ∧
      (Comparison.sort order a b = .gt ↔ greater.holds order a [b] = true) := by
  have sorted : Comparison.sort order a b = Ord.compare x y := by
    rw [Comparison.sort, ha, hb, h.order_of_ranks hx hy]
    rfl
  rw [sorted, h.holds_eq_accepts hx hy (by decide), h.holds_eq_accepts hx hy (by decide),
    h.holds_eq_accepts hx hy (by decide)]
  cases Ord.compare x y <;> decide

end RanksBy

/-- Missing values come after all others, in whatever order. -/
theorem Comparison.sort_of_isMissing (order : Value → Value → Option Ordering) {a : Value}
    (ha : isMissing a = true) (b : Value) :
    Comparison.sort order a b = (if isMissing b then .eq else .gt) ∧
      Comparison.sort order b a = (if isMissing b then .eq else .lt) := by
  unfold Comparison.sort
  rw [ha]
  cases isMissing b <;> exact ⟨rfl, rfl⟩

end EntityStore
