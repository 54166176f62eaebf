import EntityStore.Proofs.ScalarType.Order

set_option autoImplicit false

/-! # Sorting values

Of two values, a type sorts one before the other, or they are level; values that it does not order
are level, too. Seen from the other value the answer is the opposite one (`sort_swap`), for all
types and values. That is not yet an order: being level may come from not being comparable, and then
it is not transitive. Values of a type with a name are sorted by a rank, so for these it is
(`sortsTransitively_yields`), and so it is for values of one kind if no type is known
(`sortsTransitively_ofKind`). -/

namespace EntityStore

open Comparison

theorem compare_trans_of_ne_gt {α : Type} [LinearOrder α] {x y z : α}
    (xy : Ord.compare x y ≠ .gt) (yz : Ord.compare y z ≠ .gt) : Ord.compare x z ≠ .gt := by
  rw [compare_le_iff_le] at *
  exact xy.trans yz

namespace Value

/-! ## Orders seen from the other side -/

theorem orderBytes_swap (a b : List UInt8) : orderBytes b a = (orderBytes a b).swap := by
  induction a generalizing b with
  | nil => cases b <;> rfl
  | cons x a ih =>
    cases b with
    | nil => rfl
    | cons y b =>
      unfold orderBytes
      rw [← Nat.compare_swap x.toNat y.toNat]
      cases Ord.compare x.toNat y.toNat with
      | lt => rfl
      | eq => exact ih b
      | gt => rfl

theorem looseOrder?_swap (a b : Value) : looseOrder? b a = (looseOrder? a b).map Ordering.swap := by
  -- Values of different kinds are not ordered, except whole numbers and numbers.
  cases a <;> cases b <;> simp only [looseOrder?, number?, Option.map_none, Option.map_some]
  case bool.bool a b => rw [Nat.compare_swap]
  case integer.integer a b => rw [Int.compare_swap]
  case integer.number a b => exact Binary64.compare?_swap _ _
  case number.integer a b => exact Binary64.compare?_swap _ _
  case number.number a b => exact Binary64.compare?_swap _ _
  case string.string a b =>
    have swap : Ord.compare b a = (Ord.compare a b).swap := Std.OrientedCmp.eq_swap
    rw [ScalarType.orderText_eq, ScalarType.orderText_eq, swap]
  case date.date a b =>
    rw [ScalarType.order_eq_compare_rank, ScalarType.order_eq_compare_rank, Int.compare_swap]
  case uuid.uuid a b => rw [Uuid.order, Uuid.order, Nat.compare_swap]
  case binary.binary a b => rw [orderBytes_swap]

/-! ## Values of one kind -/

theorem orderBytes_trans {a b c : List UInt8} (ab : orderBytes a b ≠ .gt)
    (bc : orderBytes b c ≠ .gt) : orderBytes a c ≠ .gt := by
  induction a generalizing b c with
  | nil => cases c <;> simp [orderBytes]
  | cons x a ih =>
    cases b with
    | nil => exact absurd rfl ab
    | cons y b =>
      cases c with
      | nil => exact absurd rfl bc
      | cons z c =>
        unfold orderBytes at ab bc ⊢
        rcases lt_trichotomy x.toNat y.toNat with xy | xy | xy <;>
          rcases lt_trichotomy y.toNat z.toNat with yz | yz | yz
        · simp [compare_lt_iff_lt.2 (xy.trans yz)]
        · simp [compare_lt_iff_lt.2 (yz ▸ xy)]
        · simp [compare_gt_iff_gt.2 yz] at bc
        · simp [compare_lt_iff_lt.2 (xy ▸ yz)]
        · rw [compare_eq_iff_eq.2 xy] at ab
          rw [compare_eq_iff_eq.2 yz] at bc
          rw [compare_eq_iff_eq.2 (xy.trans yz)]
          exact ih ab bc
        · simp [compare_gt_iff_gt.2 yz] at bc
        all_goals simp [compare_gt_iff_gt.2 xy] at ab

/-- Values of one kind that are represented are ordered, and their order is transitive. -/
theorem looseOrder?_trans {a b c : Value} (ab : a.kind = b.kind) (bc : b.kind = c.kind)
    (ha : isMissing a = false) (hb : isMissing b = false) (hc : isMissing c = false)
    (leab : (looseOrder? a b).getD .eq ≠ .gt) (lebc : (looseOrder? b c).getD .eq ≠ .gt) :
    (looseOrder? a c).getD .eq ≠ .gt := by
  cases a <;> cases b <;> simp [kind] at ab <;> cases c <;> simp [kind] at bc
  case null.null => exact absurd ha (by decide)
  case invalid.invalid => exact absurd ha (by decide)
  case bool.bool => exact compare_trans_of_ne_gt leab lebc
  case integer.integer => exact compare_trans_of_ne_gt leab lebc
  case number.number x y z =>
    -- What is no number counts as missing.
    have hx : x.isNaN = false := ha
    have hy : y.isNaN = false := hb
    have hz : z.isNaN = false := hc
    simp only [looseOrder?, number?, ScalarType.compare?_eq, ScalarType.rankOfNumber?, hx, hy,
      hz] at leab lebc ⊢
    exact compare_trans_of_ne_gt leab lebc
  case string.string =>
    simp only [looseOrder?, ScalarType.orderText_eq] at leab lebc ⊢
    exact compare_trans_of_ne_gt leab lebc
  case date.date =>
    simp only [looseOrder?, ScalarType.order_eq_compare_rank] at leab lebc ⊢
    exact compare_trans_of_ne_gt leab lebc
  case uuid.uuid => exact compare_trans_of_ne_gt leab lebc
  case binary.binary => exact orderBytes_trans leab lebc

end Value

namespace ScalarType

/-! ## Sorting seen from the other side -/

theorem order_swap (t : ScalarType) (a b : Value) :
    t.order b a = (t.order a b).map Ordering.swap := by
  by_cases named : t ∈ all
  · obtain ⟨α, _, rank, ranks, -⟩ := isRanked named
    rw [ranks.order_eq, ranks.order_eq]
    cases rank a with
    | none => cases rank b <;> rfl
    | some x =>
      cases rank b with
      | none => rfl
      | some y => exact congrArg some Std.OrientedCmp.eq_swap
  · have unnamed : t = .any := by
      cases t with
      | any => rfl
      | _ => exact absurd (by decide) named
    rw [unnamed]
    exact Value.looseOrder?_swap a b

theorem sort_swap (t : ScalarType) (a b : Value) : t.sort b a = (t.sort a b).swap := by
  unfold sort Comparison.sort
  cases isMissing a <;> cases isMissing b
  case false.false =>
    dsimp only
    rw [order_swap]
    cases t.order a b <;> rfl
  all_goals rfl

/-! ## Values that are sorted without contradiction -/

/-- Among some values, what is not sorted behind the second of two is not sorted behind any value
that this is not sorted behind. -/
def SortsTransitively (t : ScalarType) (among : Value → Prop) : Prop :=
  ∀ x y z, among x → among y → among z → t.sort x y ≠ .gt → t.sort y z ≠ .gt → t.sort x z ≠ .gt

/-- Missing values are behind all others, so only the others need to be looked at. -/
theorem sortsTransitively_of_order {t : ScalarType} {among : Value → Prop}
    (present : ∀ x y z, among x → among y → among z → isMissing x = false → isMissing y = false →
      isMissing z = false → (t.order x y).getD .eq ≠ .gt → (t.order y z).getD .eq ≠ .gt →
      (t.order x z).getD .eq ≠ .gt) : t.SortsTransitively among := by
  intro x y z hx hy hz xy yz
  have transitive := present x y z hx hy hz
  unfold sort Comparison.sort at *
  cases mx : isMissing x <;> cases my : isMissing y <;> cases mz : isMissing z <;>
    simp_all

/-- A type yields a value: coercion gives it, under some definition and from some input. -/
def Yields (t : ScalarType) (v : Value) : Prop := ∃ p default raw, t.coerce p default raw = v

/-- A type with a name sorts the values that it yields without contradiction. -/
theorem sortsTransitively_yields {t : ScalarType} (named : t ∈ all) :
    t.SortsTransitively t.Yields := by
  obtain ⟨α, _, rank, ranks, kept⟩ := isRanked named
  refine sortsTransitively_of_order fun x y z hx hy hz mx my mz xy yz => ?_
  obtain ⟨r, hr⟩ := kept x ⟨hx, mx⟩
  obtain ⟨s, hs⟩ := kept y ⟨hy, my⟩
  obtain ⟨u, hu⟩ := kept z ⟨hz, mz⟩
  rw [ranks.order_of_ranks hr hs] at xy
  rw [ranks.order_of_ranks hs hu] at yz
  rw [ranks.order_of_ranks hr hu]
  exact compare_trans_of_ne_gt xy yz

/-- Where no type is known, values of one kind are sorted without contradiction. -/
theorem sortsTransitively_ofKind (kind : String) :
    any.SortsTransitively fun v => isMissing v = true ∨ v.kind = kind := by
  refine sortsTransitively_of_order fun x y z hx hy hz mx my mz xy yz => ?_
  have ofKind {v : Value} (hv : isMissing v = true ∨ v.kind = kind)
      (present : isMissing v = false) : v.kind = kind := hv.resolve_left (by simp [present])
  exact Value.looseOrder?_trans ((ofKind hx mx).trans (ofKind hy my).symm)
    ((ofKind hy my).trans (ofKind hz mz).symm) mx my mz xy yz

end ScalarType

end EntityStore
