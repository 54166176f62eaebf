import EntityStore.Proofs.ScalarType.Sort
import EntityStore.ScalarType.Definition

set_option autoImplicit false

/-! # The limits of checked definitions

The check of a definition brings its limits into the form of the values that they limit
(`IsLimit`) and exchanges them if they are in the wrong order (`arranged`). Limits that have been
checked are left alone by a second check (`checkLimits_of_settled`), and in which order two limits
are given makes no difference, but for the two zeros among the numbers (`arranged_comm`). -/

namespace EntityStore.ScalarType

open Comparison

/-- Whether the definition of a property of the type may give limits. -/
def hasLimits : ScalarType → Bool
  | .integer | .number | .date => true
  | .string | .boolean | .uuid | .any => false

variable {t : ScalarType} {p q : Property} {raw : Option Value} {v : Value}

theorem mem_all_of_hasLimits (h : t.hasLimits = true) : t ∈ all := by
  cases t <;> first | decide | cases h

/-- A type with limits has values of one form, whatever the definition asks for. -/
theorem coerce_congr (h : t.hasLimits = true) (p q : Property) (default : Option Value)
    (v : Value) : t.coerce p default v = t.coerce q default v := by
  cases t <;> first | rfl | cases h

/-! ## Single limits -/

/-- A value that is represented, in the form of its type. -/
structure IsLimit (t : ScalarType) (v : Value) : Prop where
  canonical : Canonical {} t v
  present : isMissing v = false

theorem limit_fst_eq_some_iff : (t.limit raw).1 = some v ↔
    ∃ r, raw = some r ∧ t.coerce {} none r = v ∧ isMissing v = false := by
  unfold limit isMissing
  cases raw with
  | none => simp
  | some r =>
    dsimp only
    constructor
    · intro found
      split at found
      · simp at found
      · split at found
        · simp at found
        · next null invalid =>
          obtain rfl := Option.some.inj found
          exact ⟨r, rfl, rfl, by simp [null, invalid]⟩
    · rintro ⟨_, ⟨⟩, rfl, present⟩
      obtain ⟨null, invalid⟩ := Bool.or_eq_false_iff.1 present
      simp [null, invalid]

theorem limit_snd_eq_none_iff : (t.limit raw).2 = none ↔
    ∀ r, raw = some r → (t.coerce {} none r).isInvalid = false := by
  unfold limit
  cases raw with
  | none => simp
  | some r =>
    dsimp only
    split
    · next null =>
      rw [Value.isNull_iff] at null
      simp [null, Value.isInvalid]
    · split
      · next invalid => simp [invalid]
      · next invalid => simpa using invalid

theorem isLimit_of_limit (h : (t.limit raw).1 = some v) : t.IsLimit v := by
  obtain ⟨r, -, rfl, present⟩ := limit_fst_eq_some_iff.1 h
  exact ⟨canonical_coerce t {} none r, present⟩

namespace IsLimit

theorem exists_whole (h : integer.IsLimit v) : ∃ i, v = .integer i := by
  obtain ⟨canonical, present⟩ := h
  cases canonical with
  | null => exact absurd present (by decide)
  | noWhole => exact absurd present (by decide)
  | whole i => exact ⟨i, rfl⟩

theorem exists_number (h : number.IsLimit v) : ∃ x, v = .number x ∧ x.isFinite = true := by
  obtain ⟨canonical, present⟩ := h
  cases canonical with
  | null => exact absurd present (by decide)
  | noNumber => exact absurd present (by decide)
  | number finite => exact ⟨_, rfl, finite⟩

theorem exists_date (h : date.IsLimit v) :
    ∃ d : Instant, v = .date d ∧ d.truncate? = some d := by
  obtain ⟨canonical, present⟩ := h
  cases canonical with
  | null => exact absurd present (by decide)
  | noDate => exact absurd present (by decide)
  | date whole => exact ⟨_, rfl, whole⟩

theorem keeps (h : t.IsLimit v) : t.Keeps v := ⟨⟨{}, none, v, h.canonical.coerce_eq⟩, h.present⟩

theorem isNull (h : t.IsLimit v) : v.isNull = false := (Bool.or_eq_false_iff.1 h.present).1

theorem isInvalid (h : t.IsLimit v) : v.isInvalid = false := (Bool.or_eq_false_iff.1 h.present).2

/-- A limit has the form of a value under every definition. -/
theorem coerce_eq (h : t.IsLimit v) (limited : t.hasLimits = true) (d : Property) :
    t.coerce d none v = v := by
  rw [coerce_congr limited d {}, h.canonical.coerce_eq]

/-- A limit that has been checked is left alone. -/
theorem limit_eq (h : t.IsLimit v) : t.limit (some v) = (some v, none) := by
  simp [limit, h.canonical.coerce_eq, h.isNull, h.isInvalid]

end IsLimit

/-! ## The order of limits -/

@[simp]
theorem order_integer (i j : Int64) :
    integer.order (.integer i) (.integer j) = some (Ord.compare i.toInt j.toInt) := rfl

/-- Dates in whole milliseconds are ordered by these. -/
theorem order_date {d e : Instant} (hd : d.truncate? = some d) (he : e.truncate? = some e) :
    date.order (.date d) (.date e) = some (Ord.compare d.millis e.millis) := by
  obtain ⟨shortd, wholed⟩ := Instant.nanos_of_truncate? hd
  obtain ⟨shorte, wholee⟩ := Instant.nanos_of_truncate? he
  have rank : Ord.compare (rankOfInstant d) (rankOfInstant e) =
      Ord.compare d.millis e.millis := by
    unfold rankOfInstant Instant.millis
    rcases lt_trichotomy (d.seconds * 1000 + ((d.nanos / 1000000 : Nat) : Int))
      (e.seconds * 1000 + ((e.nanos / 1000000 : Nat) : Int)) with lt | eq | gt
    · rw [compare_lt_iff_lt.2 lt, compare_lt_iff_lt.2 (by omega)]
    · rw [compare_eq_iff_eq.2 eq, compare_eq_iff_eq.2 (by omega)]
    · rw [compare_gt_iff_gt.2 gt, compare_gt_iff_gt.2 (by omega)]
  rw [← rank, ← order_eq_compare_rank]
  rfl

theorem rankOfInstant_injective : Function.Injective rankOfInstant := by
  intro d e eq
  have hd := d.inRange
  have he := e.inRange
  unfold rankOfInstant at eq
  obtain ⟨seconds, nanos⟩ : d.seconds = e.seconds ∧ d.nanos = e.nanos := by omega
  cases d
  cases e
  simp_all

namespace IsLimit

variable {a b : Value}

/-- Of two limits, one is at most the other one. -/
theorem order_ne_none (limited : t.hasLimits = true) (ha : t.IsLimit a) (hb : t.IsLimit b) :
    t.order a b ≠ none := by
  obtain ⟨α, _, rank, ranks, kept⟩ := isRanked (mem_all_of_hasLimits limited)
  obtain ⟨x, hx⟩ := kept a ha.keeps
  obtain ⟨y, hy⟩ := kept b hb.keeps
  rw [ranks.order_eq, hx, hy]
  simp

/-- Limits that are level are the same value, and equal unless they are numbers. -/
theorem same_of_order_eq (limited : t.hasLimits = true) (ha : t.IsLimit a) (hb : t.IsLimit b)
    (level : t.order a b = some .eq) : a.same b = true ∧ (t ≠ .number → a = b) := by
  cases t with
  | integer =>
    obtain ⟨i, rfl⟩ := ha.exists_whole
    obtain ⟨j, rfl⟩ := hb.exists_whole
    rw [order_integer, Option.some_inj, compare_eq_iff_eq] at level
    obtain rfl := Int64.toInt_inj.1 level
    exact ⟨ha.canonical.same_self (by decide), fun _ => rfl⟩
  | number =>
    obtain ⟨x, rfl, finx⟩ := ha.exists_number
    obtain ⟨y, rfl, finy⟩ := hb.exists_number
    have nx := Binary64.isNaN_of_isFinite finx
    have ny := Binary64.isNaN_of_isFinite finy
    have keys : x.orderKey = y.orderKey := by
      simpa [order, orderBy, Value.number?, Binary64.compare?, nx, ny] using level
    exact ⟨Binary64.equals_iff.2 ⟨nx, ny, keys⟩, fun typed => absurd rfl typed⟩
  | date =>
    obtain ⟨d, rfl, -⟩ := ha.exists_date
    obtain ⟨e, rfl, -⟩ := hb.exists_date
    have ranks : some (d.order e) = some .eq := level
    rw [Option.some_inj, order_eq_compare_rank, compare_eq_iff_eq] at ranks
    obtain rfl := rankOfInstant_injective ranks
    exact ⟨ha.canonical.same_self (by decide), fun _ => rfl⟩
  | string | boolean | uuid | any => cases limited

end IsLimit

/-! ## Two limits -/

/-- Two limits, the lower one first if there are both. -/
def arranged (t : ScalarType) : Option Value → Option Value → Option Value × Option Value
  | some a, some b => if t.order a b = some .gt then (some b, some a) else (some a, some b)
  | low, high => (low, high)

theorem checkLimits_fst (t : ScalarType) (p : Property) :
    (t.checkLimits p).1 =
      { p with
        min := (t.arranged (t.limit p.min).1 (t.limit p.max).1).1
        max := (t.arranged (t.limit p.min).1 (t.limit p.max).1).2 } := by
  unfold checkLimits arranged
  dsimp only
  cases (t.limit p.min).1 <;> cases (t.limit p.max).1 <;> simp
  split <;> simp_all

theorem checkLimits_snd_eq_nil_iff : (t.checkLimits p).2 = [] ↔
    (t.limit p.min).2 = none ∧ (t.limit p.max).2 = none := by
  unfold checkLimits
  dsimp only
  cases (t.limit p.min).2 <;> cases (t.limit p.max).2 <;> simp

/-- Both limits are in form, and the lower one is not above the other. -/
structure Settled (t : ScalarType) (low high : Option Value) : Prop where
  least : ∀ v, low = some v → t.IsLimit v
  greatest : ∀ v, high = some v → t.IsLimit v
  ordered : ∀ a b, low = some a → high = some b → t.order a b ≠ some .gt

theorem Settled.arranged_eq {low high : Option Value} (h : t.Settled low high) :
    t.arranged low high = (low, high) := by
  cases low with
  | none => rfl
  | some a =>
    cases high with
    | none => rfl
    | some b => exact if_neg (h.ordered a b rfl rfl)

/-- A lower limit is at most the upper one. -/
theorem Settled.atMost {low high : Option Value} {a b : Value} (h : t.Settled low high)
    (limited : t.hasLimits = true) (least : low = some a) (greatest : high = some b) :
    t.compare .atMost a [b] = true := by
  have ha := h.least a least
  have hb := h.greatest b greatest
  obtain ⟨o, ordered⟩ := Option.ne_none_iff_exists'.1 (ha.order_ne_none limited hb)
  have accepted : o ≠ .gt := by
    rintro rfl
    exact h.ordered a b least greatest ordered
  unfold compare holds orderNotNull
  simp [ha.isNull, hb.isNull, ordered, accepts, accepted]

/-- Arranging two limits leaves them in order. -/
theorem settled_arranged {low high : Option Value} (hl : ∀ v, low = some v → t.IsLimit v)
    (hh : ∀ v, high = some v → t.IsLimit v) :
    t.Settled (t.arranged low high).1 (t.arranged low high).2 := by
  rcases low with _ | a
  · exact ⟨fun v h => absurd h (by simp [arranged]), hh, fun a b h => absurd h (by simp [arranged])⟩
  · rcases high with _ | b
    · exact ⟨hl, fun v h => absurd h (by simp [arranged]), fun a b _ h =>
        absurd h (by simp [arranged])⟩
    · by_cases greater : t.order a b = some .gt
      · have exchanged : t.arranged (some a) (some b) = (some b, some a) := if_pos greater
        rw [exchanged]
        refine ⟨hh, hl, ?_⟩
        rintro _ _ ⟨⟩ ⟨⟩
        rw [order_swap, greater]
        simp
      · have kept : t.arranged (some a) (some b) = (some a, some b) := if_neg greater
        rw [kept]
        refine ⟨hl, hh, ?_⟩
        rintro _ _ ⟨⟩ ⟨⟩
        exact greater

theorem settled_checkLimits (t : ScalarType) (p : Property) :
    t.Settled (t.checkLimits p).1.min (t.checkLimits p).1.max := by
  rw [checkLimits_fst]
  exact settled_arranged (fun _ => isLimit_of_limit) fun _ => isLimit_of_limit

/-- A second check finds nothing, and changes nothing. -/
theorem checkLimits_of_settled (h : t.Settled p.min p.max) : t.checkLimits p = (p, []) := by
  have stays {raw : Option Value} (limit : ∀ v, raw = some v → t.IsLimit v) :
      t.limit raw = (raw, none) := by
    cases raw with
    | none => rfl
    | some v => exact (limit v rfl).limit_eq
  have low := stays h.least
  have high := stays h.greatest
  refine Prod.ext ?_ (checkLimits_snd_eq_nil_iff.2 ⟨by rw [low], by rw [high]⟩)
  rw [checkLimits_fst, low, high, h.arranged_eq]

/-- The order in which two limits are given makes no difference, but for numbers that are level:
these are the same, and stand in the order in which they are given. -/
theorem arranged_comm {a b : Value} (limited : t.hasLimits = true) (ha : t.IsLimit a)
    (hb : t.IsLimit b) :
    t.arranged (some b) (some a) = t.arranged (some a) (some b) ∨
      t = .number ∧ (a.same b = true ∧ b.same a = true) ∧
        t.arranged (some a) (some b) = (some a, some b) ∧
          t.arranged (some b) (some a) = (some b, some a) := by
  have swapped := order_swap t a b
  simp only [arranged]
  cases order : t.order a b with
  | none => exact absurd order (ha.order_ne_none limited hb)
  | some o =>
    rw [order] at swapped
    rw [swapped]
    cases o with
    | lt => exact .inl rfl
    | gt => exact .inl rfl
    | eq =>
      obtain ⟨same, equal⟩ := ha.same_of_order_eq limited hb order
      by_cases typed : t = .number
      · exact .inr ⟨typed, ⟨same, (hb.same_of_order_eq limited ha swapped).1⟩, rfl, rfl⟩
      · rw [equal typed]
        exact .inl rfl

/-! ## Checked definitions -/

/-- What is wrong with the distance of the values of a type. -/
def stepFaults (t : ScalarType) (p : Property) : List Property.Fault :=
  match t with
  | .integer => checkStep p (fun x => isPositive x && x.isWhole) .wholeStep
  | .number => checkStep p isPositive .step
  | .string | .date | .boolean | .uuid | .any => []

/-- The check of a type with limits is that of the limits, and then that of the distance. -/
theorem checkDefinition_of_hasLimits [Pattern.Reader] (limited : t.hasLimits = true) (p : Property)
    :
    t.checkDefinition p = ((t.checkLimits p).1, (t.checkLimits p).2 ++ t.stepFaults p) := by
  cases t with
  | integer => rfl
  | number => rfl
  | date => exact Prod.ext rfl (List.append_nil _).symm
  | string | boolean | uuid | any => cases limited

/-- The faults depend on nothing else of the definition. -/
theorem stepFaults_congr (step : q.step = p.step) : t.stepFaults q = t.stepFaults p := by
  unfold stepFaults checkStep
  rw [step]

@[simp]
theorem checkLimits_fst_step (t : ScalarType) (p : Property) :
    (t.checkLimits p).1.step = p.step := rfl

/-- What the check of a type with limits leaves has been checked. -/
theorem settled_of_checked [Pattern.Reader] (limited : t.hasLimits = true)
    (checked : t.checkDefinition p = (q, [])) :
    t.Settled q.min q.max ∧ t.stepFaults q = [] := by
  rw [checkDefinition_of_hasLimits limited] at checked
  obtain ⟨rfl, faultless⟩ := Prod.mk.inj checked
  rw [stepFaults_congr (checkLimits_fst_step t p)]
  exact ⟨settled_checkLimits t p, (List.append_eq_nil_iff.1 faultless).2⟩

end EntityStore.ScalarType
