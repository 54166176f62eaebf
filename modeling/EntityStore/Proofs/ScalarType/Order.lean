import EntityStore.Proofs.Comparison
import EntityStore.Proofs.ScalarType.Canonical
import EntityStore.ScalarType.Order
import Mathlib.Data.String.Basic

set_option autoImplicit false

/-! # The comparisons of the types

Each of the types that have names orders values by a rank, and all values that it keeps have one
(`isRanked`): texts are ordered as texts, and all others by a whole number. A number has the
same rank whether it is kept as a whole number or not, and what is no number has none. So the
comparisons of a type obey the laws of a linear order, with `null` beside it (`compare_laws`). -/

namespace EntityStore.ScalarType

/-- A type keeps a value: coercion gives it, and it is neither `null` nor invalid. -/
def Keeps (t : ScalarType) (v : Value) : Prop :=
  (∃ p default raw, t.coerce p default raw = v) ∧ Comparison.isMissing v = false

theorem Keeps.canonical {t : ScalarType} {v : Value} (h : t.Keeps v) : ∃ p, Canonical p t v := by
  obtain ⟨⟨p, default, raw, rfl⟩, -⟩ := h
  exact ⟨p, t.canonical_coerce p default raw⟩

/-! ## Ranks -/

/-- A view of values, what it shows being ordered by rank as far as it has one. -/
theorem ranksBy_orderBy {α β : Type} [LinearOrder α] (view : Value → Option β)
    (rank : β → Option α) {inner : β → β → Option Ordering} (null : view .null = none)
    (inner_eq : ∀ x y, inner x y = (rank x).bind fun r => (rank y).map (Ord.compare r)) :
    RanksBy (orderBy view inner) fun v => (view v).bind rank where
  order_eq a b := by
    unfold orderBy
    cases view a with
    | none => rfl
    | some x =>
      cases view b with
      | none => cases h : rank x <;> simp [h]
      | some y => exact inner_eq x y
  null := by rw [null, Option.bind_none]

theorem orderText_eq (a b : String) : Value.orderText a b = Ord.compare a b :=
  (LinearOrder.compare_eq_compareOfLessAndEq a b).symm

/-- The nanoseconds since the start of 1970; those of a leap second come before the next one. -/
def rankOfInstant (t : Instant) : Int := t.seconds * 2000000000 + t.nanos

theorem order_eq_compare_rank (a b : Instant) :
    a.order b = Ord.compare (rankOfInstant a) (rankOfInstant b) := by
  have ha := a.inRange
  have hb := b.inRange
  unfold Instant.order rankOfInstant
  rcases lt_trichotomy a.seconds b.seconds with lt | eq | gt
  · rw [compare_lt_iff_lt.2 lt]
    exact (compare_lt_iff_lt.2 (by omega)).symm
  · rw [compare_eq_iff_eq.2 eq]
    dsimp only
    rcases lt_trichotomy a.nanos b.nanos with lt | eq' | gt
    · rw [compare_lt_iff_lt.2 lt]
      exact (compare_lt_iff_lt.2 (by omega)).symm
    · rw [compare_eq_iff_eq.2 eq']
      exact (compare_eq_iff_eq.2 (by omega)).symm
    · rw [compare_gt_iff_gt.2 gt]
      exact (compare_gt_iff_gt.2 (by omega)).symm
  · rw [compare_gt_iff_gt.2 gt]
    exact (compare_gt_iff_gt.2 (by omega)).symm

/-- The rank of a number, which all patterns have that stand for it. -/
def rankOfNumber? (x : Binary64) : Option Int := if x.isNaN then none else some x.orderKey

theorem compare?_eq (x y : Binary64) :
    x.compare? y = (rankOfNumber? x).bind fun r => (rankOfNumber? y).map (Ord.compare r) := by
  unfold Binary64.compare? rankOfNumber?
  cases x.isNaN <;> cases y.isNaN <;> rfl

/-! ## Values that a type keeps -/

section Keeps

variable {v : Value}

theorem Keeps.exists_text (h : string.Keeps v) : ∃ s, v.text? = some s := by
  obtain ⟨p, canonical⟩ := h.canonical
  cases canonical with
  | null => exact absurd h.2 (by decide)
  | text shaped => exact ⟨_, rfl⟩

theorem Keeps.exists_whole (h : integer.Keeps v) : ∃ i, v.integer? = some i := by
  obtain ⟨p, canonical⟩ := h.canonical
  cases canonical with
  | null => exact absurd h.2 (by decide)
  | noWhole => exact absurd h.2 (by decide)
  | whole i => exact ⟨_, rfl⟩

theorem Keeps.exists_number (h : number.Keeps v) : ∃ x, v.number? = some x ∧ x.isNaN = false := by
  obtain ⟨p, canonical⟩ := h.canonical
  cases canonical with
  | null => exact absurd h.2 (by decide)
  | noNumber => exact absurd h.2 (by decide)
  | number finite => exact ⟨_, rfl, Binary64.isNaN_of_isFinite finite⟩

theorem Keeps.exists_truth (h : boolean.Keeps v) : ∃ b, v.bool? = some b := by
  obtain ⟨p, canonical⟩ := h.canonical
  cases canonical with
  | null => exact absurd h.2 (by decide)
  | truth b => exact ⟨_, rfl⟩

theorem Keeps.exists_date (h : date.Keeps v) : ∃ t, v.date? = some t := by
  obtain ⟨p, canonical⟩ := h.canonical
  cases canonical with
  | null => exact absurd h.2 (by decide)
  | noDate => exact absurd h.2 (by decide)
  | date whole => exact ⟨_, rfl⟩

theorem Keeps.exists_identity (h : uuid.Keeps v) : ∃ u, v.uuid? = some u := by
  obtain ⟨p, canonical⟩ := h.canonical
  cases canonical with
  | null => exact absurd h.2 (by decide)
  | identity u => exact ⟨_, rfl⟩

end Keeps

/-- A type orders values by a rank, which all values have that it keeps. -/
def IsRanked (t : ScalarType) : Prop :=
  ∃ (α : Type) (_ : LinearOrder α) (rank : Value → Option α),
    RanksBy t.order rank ∧ ∀ v, t.Keeps v → ∃ x, rank v = some x

/-- A type that shows something with a rank in every value that it keeps. -/
theorem isRanked_of_view {α β : Type} [LinearOrder α] {t : ScalarType} (view : Value → Option β)
    (rank : β → α) {inner : β → β → Option Ordering} (order_eq : t.order = orderBy view inner)
    (null : view .null = none) (inner_eq : ∀ x y, inner x y = some (Ord.compare (rank x) (rank y)))
    (kept : ∀ v, t.Keeps v → ∃ x, view v = some x) : t.IsRanked := by
  refine ⟨α, inferInstance, fun v => (view v).bind (some ∘ rank), ?_, ?_⟩
  · rw [order_eq]
    exact ranksBy_orderBy view (some ∘ rank) null inner_eq
  · intro v keeps
    obtain ⟨x, shown⟩ := kept v keeps
    refine ⟨rank x, ?_⟩
    dsimp only
    rw [shown]
    rfl

theorem isRanked_number : number.IsRanked := by
  refine ⟨Int, inferInstance, fun v => v.number?.bind rankOfNumber?,
    ranksBy_orderBy Value.number? rankOfNumber? rfl compare?_eq, ?_⟩
  intro v keeps
  obtain ⟨x, shown, number⟩ := keeps.exists_number
  refine ⟨x.orderKey, ?_⟩
  dsimp only
  rw [shown, Option.bind_some, rankOfNumber?, number]
  rfl

theorem isRanked {t : ScalarType} (h : t ∈ all) : t.IsRanked := by
  cases t with
  | string =>
    exact isRanked_of_view Value.text? id rfl rfl (fun x y => congrArg some (orderText_eq x y))
      fun _ keeps => keeps.exists_text
  | integer =>
    exact isRanked_of_view Value.integer? (·.toInt) rfl rfl (fun _ _ => rfl)
      fun _ keeps => keeps.exists_whole
  | number => exact isRanked_number
  | boolean =>
    exact isRanked_of_view Value.bool? (·.toNat) rfl rfl (fun _ _ => rfl)
      fun _ keeps => keeps.exists_truth
  | date =>
    exact isRanked_of_view Value.date? rankOfInstant rfl rfl
      (fun x y => congrArg some (order_eq_compare_rank x y)) fun _ keeps => keeps.exists_date
  | uuid =>
    exact isRanked_of_view Value.uuid? (·.number) rfl rfl (fun _ _ => rfl)
      fun _ keeps => keeps.exists_identity
  | any => exact absurd h (by decide)

/-! ## Laws -/

/-- The laws of the comparisons of a type. -/
structure ComparesLawfully (t : ScalarType) : Prop where
  /-- Not being equal is the negation of being equal. -/
  notEqual_eq (v a : Value) : t.compare .notEqual v [a] = !t.compare .equal v [a]
  /-- Being at most something is being less or equal. -/
  atMost_eq (v a : Value) :
    t.compare .atMost v [a] = (t.compare .less v [a] || t.compare .equal v [a])
  /-- Being at least something is being greater or equal. -/
  atLeast_eq (v a : Value) :
    t.compare .atLeast v [a] = (t.compare .greater v [a] || t.compare .equal v [a])
  /-- What is less than something is something that this is greater than. -/
  less_eq_greater (v a : Value) : t.compare .less v [a] = t.compare .greater a [v]
  /-- Being equal goes both ways. -/
  equal_comm (v a : Value) : t.compare .equal v [a] = t.compare .equal a [v]
  /-- `null` equals `null`, is at most and at least `null`, and neither less nor greater. -/
  two_nulls : t.compare .equal .null [.null] = true ∧ t.compare .atMost .null [.null] = true ∧
    t.compare .atLeast .null [.null] = true ∧ t.compare .less .null [.null] = false ∧
    t.compare .greater .null [.null] = false
  /-- None of the five comparisons holds with `null` on exactly one side. -/
  one_null (v : Value) (ne : v ≠ .null) :
    ∀ c ∈ [Comparison.equal, .less, .atMost, .greater, .atLeast],
      t.compare c v [.null] = false ∧ t.compare c .null [v] = false
  /-- The bounds between which a value lies have no order. -/
  between_comm (v a b : Value) : t.compare .between v [a, b] = t.compare .between v [b, a]
  /-- `null` does not lie between anything, and nothing lies between `null` and something. -/
  between_null (v a b : Value) (null : v = .null ∨ a = .null ∨ b = .null) :
    t.compare .between v [a, b] = false
  /-- A value lies between two bounds if it is at least the one and at most the other one. -/
  between_iff (v a b : Value) (hv : v ≠ .null) (ha : a ≠ .null) (hb : b ≠ .null) :
    t.compare .between v [a, b] = true ↔
      (t.compare .atLeast v [a] = true ∧ t.compare .atMost v [b] = true) ∨
      (t.compare .atLeast v [b] = true ∧ t.compare .atMost v [a] = true)
  /-- Of two values that the type keeps, one is less, equal or greater, and only one of that. -/
  existsUnique (v a : Value) (hv : t.Keeps v) (ha : t.Keeps a) :
    ∃! c, c ∈ [Comparison.less, .equal, .greater] ∧ t.compare c v [a] = true
  /-- Being less is transitive, on all values. -/
  less_trans (v a b : Value) (va : t.compare .less v [a] = true)
    (ab : t.compare .less a [b] = true) : t.compare .less v [b] = true
  /-- Being equal is transitive, on all values. -/
  equal_trans (v a b : Value) (va : t.compare .equal v [a] = true)
    (ab : t.compare .equal a [b] = true) : t.compare .equal v [b] = true
  /-- Values that the type keeps are sorted as they compare. -/
  sort_iff (v a : Value) (hv : t.Keeps v) (ha : t.Keeps a) :
    (t.sort v a = .lt ↔ t.compare .less v [a] = true) ∧
      (t.sort v a = .eq ↔ t.compare .equal v [a] = true) ∧
      (t.sort v a = .gt ↔ t.compare .greater v [a] = true)
  /-- `null` and what is invalid is sorted behind all other values. -/
  sort_missing (v a : Value) (hv : v.isNull = true ∨ v.isInvalid = true) :
    t.sort v a = (if a.isNull || a.isInvalid then .eq else .gt) ∧
      t.sort a v = (if a.isNull || a.isInvalid then .eq else .lt)

/-- The comparisons of every type that has a name obey these laws, on values of whatever kinds. -/
theorem compare_laws {t : ScalarType} (h : t ∈ all) : t.ComparesLawfully := by
  obtain ⟨α, _, rank, ranks, kept⟩ := isRanked h
  exact
    { notEqual_eq := fun _ _ => rfl
      atMost_eq := ranks.atMost_eq
      atLeast_eq := ranks.atLeast_eq
      less_eq_greater := ranks.less_eq_greater
      equal_comm := ranks.equal_comm
      two_nulls := ⟨rfl, rfl, rfl, rfl, rfl⟩
      one_null := fun _ ne _ hc => ranks.one_null ne hc
      between_comm := ranks.between_comm
      between_null := fun _ _ _ null => ranks.between_eq_false null
      between_iff := fun _ _ _ hv _ _ => ranks.between_iff_bounds hv
      existsUnique := fun v a hv ha => by
        obtain ⟨x, hx⟩ := kept v hv
        obtain ⟨y, hy⟩ := kept a ha
        exact ranks.existsUnique_holds hx hy
      less_trans := fun _ _ _ va ab => ranks.less_trans va ab
      equal_trans := fun _ _ _ va ab => ranks.equal_trans va ab
      sort_iff := fun v a hv ha => by
        obtain ⟨x, hx⟩ := kept v hv
        obtain ⟨y, hy⟩ := kept a ha
        exact ranks.sort_iff hv.2 ha.2 hx hy
      sort_missing := fun v a hv => by
        have missing : Comparison.isMissing v = true := by simpa [Comparison.isMissing] using hv
        exact Comparison.sort_of_isMissing t.order missing a }

/-- A whole number lies between two numbers, in whichever order they are given. -/
theorem compare_laws_number :
    ScalarType.number ∈ all ∧
      ScalarType.number.compare .between (.integer 2) [.integer 5, .number (.ofInt 1)] = true ∧
      ScalarType.number.compare .between (.integer 2) [.number (.ofInt 1), .integer 5] = true := by
  have named : ScalarType.number ∈ all := by decide
  have between : ScalarType.number.compare .between (.integer 2)
      [.integer 5, .number (.ofInt 1)] = true := by decide +kernel
  refine ⟨named, between, ?_⟩
  rw [(compare_laws named).between_comm]
  exact between

end EntityStore.ScalarType
