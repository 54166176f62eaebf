import EntityStore.Proofs.Number.Whole
import EntityStore.Proofs.Pipeline
import EntityStore.Proofs.ScalarType.Limits
import Mathlib.Data.List.Nodup

set_option autoImplicit false

/-! # Validation finds each constraint that is broken, once

What a definition demands is said here of the values themselves: `Breaks` tells which constraints a
value breaks, and `Satisfies` what it has to be to break none. Steps are counted in unbounded whole
numbers, dates by their milliseconds. For the values that coercion gives under a definition that has
been checked, validation adds exactly these constraints to what was found before
(`violations_exact`).

Numbers are left out: whether one is a number of steps from another is computed with rounded
numbers and up to a tolerance. -/

namespace EntityStore

/-- A pattern keeps the text it was read from. -/
theorem Pattern.source_of_ofText? [Pattern.Reader] {source : String} {m : Pattern}
    (h : Pattern.ofText? source = some m) : m.source = source := by
  obtain ⟨_, _, rfl⟩ := Option.map_eq_some_iff.1 h
  rfl

namespace ScalarType

/-! ## What a definition demands -/

/-- Where the steps of whole numbers are counted from: the lower limit, or zero. -/
def stepBase (p : Property) : Int := ((p.min.bind Value.integer?).map Int64.toInt).getD 0

/-- The constraints that a value of a type breaks. -/
inductive Breaks [Pattern.Reader] (p : Property) : ScalarType → Value → Constraint → Prop
  /-- Input that could not be represented is not of the type. -/
  | kind (t : ScalarType) : Breaks p t .invalid (.kind t)
  | missing (t : ScalarType) (required : p.required = true) : Breaks p t .null .presence
  /-- An empty text counts as missing. -/
  | empty (required : p.required = true) : Breaks p .string (.string "") .presence
  | short {s : String} {n : Nat} (given : p.required = true → s ≠ "")
      (limit : p.minLength = some n) (short : s.length < n) :
      Breaks p .string (.string s) (.minLength n)
  | long {s : String} {n : Nat} (given : p.required = true → s ≠ "")
      (limit : p.maxLength = some n) (long : n < s.length) :
      Breaks p .string (.string s) (.maxLength n)
  | unmatched {s source : String} {m : Pattern} (given : p.required = true → s ≠ "")
      (pattern : p.pattern = some source) (read : Pattern.ofText? source = some m)
      (unmatched : m.isMatch s = false) : Breaks p .string (.string s) (.pattern source)
  | below {i low : Int64} (limit : p.min = some (.integer low)) (below : i.toInt < low.toInt) :
      Breaks p .integer (.integer i) (.least (.integer low))
  | above {i high : Int64} (limit : p.max = some (.integer high)) (above : high.toInt < i.toInt) :
      Breaks p .integer (.integer i) (.greatest (.integer high))
  /-- The message shows the step as it is computed with. -/
  | between {i : Int64} {step : Binary64} (given : p.step = some step)
      (between : ¬ IsMultiple (i.toInt - stepBase p) step) :
      Breaks p .integer (.integer i) (.wholeStep (cutWhole step) (stepBase p))
  | early {d low : Instant} (limit : p.min = some (.date low)) (early : d.millis < low.millis) :
      Breaks p .date (.date d) (.least (.date low))
  | late {d high : Instant} (limit : p.max = some (.date high)) (late : high.millis < d.millis) :
      Breaks p .date (.date d) (.greatest (.date high))

/-- A value of a type is missing where it may be, or it is in canonical form and meets each
constraint of the definition. -/
inductive Satisfies [Pattern.Reader] (p : Property) : ScalarType → Value → Prop
  | absent (t : ScalarType) (optional : p.required = false) : Satisfies p t .null
  | text {s : String} (shaped : shape p s = s) (filled : p.required = true → s ≠ "")
      (least : ∀ n, p.minLength = some n → n ≤ s.length)
      (most : ∀ n, p.maxLength = some n → s.length ≤ n)
      (matching : ∀ source, p.pattern = some source →
        ∃ m, Pattern.ofText? source = some m ∧ m.isMatch s = true) :
      Satisfies p .string (.string s)
  | whole {i : Int64}
      (least : ∀ low, p.min = some low → ∃ m : Int64, low = .integer m ∧ m.toInt ≤ i.toInt)
      (greatest : ∀ high, p.max = some high → ∃ m : Int64, high = .integer m ∧ i.toInt ≤ m.toInt)
      (multiple : ∀ step, p.step = some step → IsMultiple (i.toInt - stepBase p) step) :
      Satisfies p .integer (.integer i)
  | date {d : Instant} (truncated : d.truncate? = some d)
      (least : ∀ low, p.min = some low → ∃ e : Instant, low = .date e ∧ e.millis ≤ d.millis)
      (greatest : ∀ high, p.max = some high → ∃ e : Instant, high = .date e ∧ d.millis ≤ e.millis) :
      Satisfies p .date (.date d)
  | truth (b : Bool) : Satisfies p .boolean (.bool b)
  | identity (u : Uuid) : Satisfies p .uuid (.uuid u)

/-! ## What the check of a definition leaves -/

section Checked

variable {t : ScalarType} {p q : Property}

/-- The pattern of a checked definition has been read. -/
theorem matcher_of_checked [Pattern.Reader] (checked : string.checkDefinition p = (q, [])) :
    q.matcher = q.pattern.bind Pattern.ofText? ∧
      ∀ source, q.pattern = some source → ∃ m, Pattern.ofText? source = some m := by
  unfold checkDefinition checkText at checked
  dsimp only at checked
  obtain ⟨rfl, faultless⟩ := Prod.mk.inj checked
  refine ⟨rfl, fun source given => ?_⟩
  dsimp only at given
  rw [given, Option.bind_some] at faultless
  cases read : Pattern.ofText? source with
  | none => simp [read] at faultless
  | some m => exact ⟨m, rfl⟩

/-- The step of a checked definition of whole numbers is a positive whole number. -/
theorem isWholeStep_of_checked [Pattern.Reader] (checked : integer.checkDefinition p = (q, []))
    {step : Binary64} (given : q.step = some step) : IsWholeStep step := by
  have passed := (settled_of_checked rfl checked).2
  unfold stepFaults checkStep at passed
  rw [given] at passed
  dsimp only at passed
  split at passed
  · next good => exact isWholeStep_iff.1 good
  · exact absurd passed (by simp)

end Checked

/-! ## Violations of single constraints -/

section Violations

variable {t : ScalarType} {p q : Property} {v : Value} {c : Constraint}

theorem mem_limitViolations : c ∈ t.limitViolations p v ↔
    (∃ low, p.min = some low ∧ t.order v low = some .lt ∧ c = .least low) ∨
      ∃ high, p.max = some high ∧ t.order v high = some .gt ∧ c = .greatest high := by
  unfold limitViolations
  rw [List.mem_append]
  refine or_congr ?_ ?_
  · cases p.min with
    | none => simp
    | some low => by_cases below : t.order v low = some .lt <;> simp [below]
  · cases p.max with
    | none => simp
    | some high => by_cases above : t.order v high = some .gt <;> simp [above]

/-- The distance of two whole numbers of 64 bits is far from the cut. -/
theorem abs_sub_stepBase_lt (p : Property) (i : Int64) :
    |i.toInt - stepBase p| < 2 ^ 127 - 1 := by
  have low := i.le_toInt
  have high := i.toInt_lt
  have base : -2 ^ 63 ≤ stepBase p ∧ stepBase p < 2 ^ 63 := by
    unfold stepBase
    cases p.min.bind Value.integer? with
    | none => exact ⟨by decide, by decide⟩
    | some m => exact ⟨m.le_toInt, m.toInt_lt⟩
  rw [abs_lt]
  omega

theorem mem_wholeStepViolations (whole : ∀ step, p.step = some step → IsWholeStep step)
    (i : Int64) : c ∈ wholeStepViolations p i ↔
      ∃ step, p.step = some step ∧ ¬ IsMultiple (i.toInt - stepBase p) step ∧
        c = .wholeStep (cutWhole step) (stepBase p) := by
  unfold wholeStepViolations
  cases given : p.step with
  | none => simp
  | some step =>
    have isWhole := whole step given
    have multiple := isWhole.emod_cutWhole_eq_zero_iff (abs_sub_stepBase_lt p i)
    have broken : (0 < cutWhole step ∧ (i.toInt - stepBase p) % cutWhole step ≠ 0) ↔
        ¬ IsMultiple (i.toInt - stepBase p) step := by
      rw [← multiple]
      exact and_iff_right isWhole.cutWhole_pos
    rw [← stepBase]
    dsimp only
    by_cases on : IsMultiple (i.toInt - stepBase p) step
    · rw [if_neg (mt broken.1 (not_not.2 on))]
      simp [on]
    · rw [if_pos (broken.2 on)]
      simp [on]

/-- A text that counts as missing breaks that constraint only. -/
theorem textViolations_of_blank (required : p.required = true) :
    textViolations p "" = [.presence] := by
  rw [textViolations, required]
  rfl

theorem mem_textViolations {s : String} (given : p.required = true → s ≠ "") :
    c ∈ textViolations p s ↔
      (∃ n, p.minLength = some n ∧ s.length < n ∧ c = .minLength n) ∨
        (∃ n, p.maxLength = some n ∧ n < s.length ∧ c = .maxLength n) ∨
          ∃ m, p.matcher = some m ∧ m.isMatch s = false ∧ c = .pattern m.source := by
  have filled : ¬ (s.isEmpty && p.required) = true := by
    rw [Bool.and_eq_true, String.isEmpty_iff]
    exact fun ⟨blank, required⟩ => given required blank
  rw [textViolations, if_neg filled, List.mem_append, List.mem_append, or_assoc]
  refine or_congr ?_ (or_congr ?_ ?_)
  · cases p.minLength with
    | none => simp
    | some n => by_cases short : s.length < n <;> simp [short]
  · cases p.maxLength with
    | none => simp
    | some n => by_cases long : n < s.length <;> simp [long]
  · cases p.matcher with
    | none => simp
    | some m => cases matched : m.isMatch s <;> simp [matched]

theorem nodup_textViolations (p : Property) (s : String) : (textViolations p s).Nodup := by
  unfold textViolations
  split
  · simp
  · cases p.minLength <;> cases p.maxLength <;> cases p.matcher <;> dsimp only <;>
      (repeat' split) <;> simp

theorem nodup_limitViolations (t : ScalarType) (p : Property) (v : Value) :
    (t.limitViolations p v).Nodup := by
  unfold limitViolations
  cases p.min <;> cases p.max <;> dsimp only <;> (repeat' split) <;> simp

theorem nodup_wholeStepViolations (p : Property) (i : Int64) : (wholeStepViolations p i).Nodup := by
  unfold wholeStepViolations
  cases p.step <;> dsimp only <;> (repeat' split) <;> simp

theorem exists_wholeStep_of_mem {i : Int64} (h : c ∈ wholeStepViolations p i) :
    ∃ n base, c = .wholeStep n base := by
  unfold wholeStepViolations at h
  cases given : p.step with
  | none => simp [given] at h
  | some step =>
    rw [given] at h
    dsimp only at h
    split at h
    · exact ⟨_, _, List.mem_singleton.1 h⟩
    · exact absurd h List.not_mem_nil

/-- A constraint is found once. -/
theorem nodup_violations (limited : t ≠ .number) (p : Property) (v : Value) :
    (t.violations p v).Nodup := by
  unfold violations contentViolations
  split
  · simp
  · split
    · split <;> simp
    · cases t with
      | string => cases v.text? <;> simp [nodup_textViolations]
      | integer =>
        cases v.integer? with
        | none => simp
        | some i =>
          refine List.Nodup.append (nodup_limitViolations _ _ _) (nodup_wholeStepViolations _ _) ?_
          -- Limits and steps are constraints of different kinds.
          intro c limit step
          obtain ⟨n, base, rfl⟩ := exists_wholeStep_of_mem step
          rcases mem_limitViolations.1 limit with ⟨_, _, _, eq⟩ | ⟨_, _, _, eq⟩ <;> cases eq
      | number => exact absurd rfl limited
      | boolean => dsimp only; split <;> simp
      | date => cases v.date? <;> simp [nodup_limitViolations]
      | uuid => dsimp only; split <;> simp
      | any => simp

/-! ## All constraints of a definition -/

/-- The types whose constraints are decided without rounding. -/
def exactTypes : List ScalarType := [.string, .integer, .date, .boolean, .uuid]

theorem violations_null (t : ScalarType) (p : Property) :
    t.violations p .null = if p.required then [.presence] else [] := by
  cases t <;> rfl

theorem mem_violations_string [Pattern.Reader] (checked : string.checkDefinition p = (q, []))
    (s : String) :
    c ∈ string.violations q (.string s) ↔ Breaks q .string (.string s) c := by
  have content : string.violations q (.string s) = textViolations q s := rfl
  rw [content]
  by_cases given : q.required = true → s ≠ ""
  · obtain ⟨matcher, read⟩ := matcher_of_checked checked
    rw [mem_textViolations given]
    constructor
    · rintro (⟨n, limit, short, rfl⟩ | ⟨n, limit, long, rfl⟩ | ⟨m, found, unmatched, rfl⟩)
      · exact .short given limit short
      · exact .long given limit long
      · obtain ⟨source, pattern, parsed⟩ := Option.bind_eq_some_iff.1 (matcher ▸ found)
        rw [Pattern.source_of_ofText? parsed]
        exact .unmatched given pattern parsed unmatched
    · intro broken
      cases broken with
      | empty required => exact absurd rfl (given required)
      | short _ limit short => exact .inl ⟨_, limit, short, rfl⟩
      | long _ limit long => exact .inr (.inl ⟨_, limit, long, rfl⟩)
      | @unmatched _ source m _ pattern parsed unmatched =>
        refine .inr (.inr ⟨m, ?_, unmatched, ?_⟩)
        · rw [matcher, pattern, Option.bind_some, parsed]
        · rw [Pattern.source_of_ofText? parsed]
  · obtain ⟨required, rfl⟩ : q.required = true ∧ s = "" := by simpa using given
    rw [textViolations_of_blank required, List.mem_singleton]
    constructor
    · rintro rfl
      exact .empty required
    · intro broken
      cases broken with
      | empty => rfl
      | short given => exact absurd rfl (given required)
      | long given => exact absurd rfl (given required)
      | unmatched given => exact absurd rfl (given required)

theorem mem_violations_integer [Pattern.Reader] (checked : integer.checkDefinition p = (q, []))
    (i : Int64) :
    c ∈ integer.violations q (.integer i) ↔ Breaks q .integer (.integer i) c := by
  have settled := (settled_of_checked rfl checked).1
  have content : integer.violations q (.integer i) =
      integer.limitViolations q (.integer i) ++ wholeStepViolations q i := rfl
  rw [content, List.mem_append, mem_limitViolations,
    mem_wholeStepViolations fun _ => isWholeStep_of_checked checked]
  constructor
  · rintro ((⟨low, limit, below, rfl⟩ | ⟨high, limit, above, rfl⟩) | ⟨step, given, between, rfl⟩)
    · obtain ⟨low, rfl⟩ := (settled.least low limit).exists_whole
      rw [order_integer, Option.some_inj, compare_lt_iff_lt] at below
      exact .below limit below
    · obtain ⟨high, rfl⟩ := (settled.greatest high limit).exists_whole
      rw [order_integer, Option.some_inj, compare_gt_iff_gt] at above
      exact .above limit above
    · exact .between given between
  · intro broken
    cases broken with
    | below limit below =>
      refine .inl (.inl ⟨_, limit, ?_, rfl⟩)
      rwa [order_integer, Option.some_inj, compare_lt_iff_lt]
    | above limit above =>
      refine .inl (.inr ⟨_, limit, ?_, rfl⟩)
      rwa [order_integer, Option.some_inj, compare_gt_iff_gt]
    | between given between => exact .inr ⟨_, given, between, rfl⟩

theorem mem_violations_date [Pattern.Reader] (checked : date.checkDefinition p = (q, []))
    {d : Instant} (truncated : d.truncate? = some d) :
    c ∈ date.violations q (.date d) ↔ Breaks q .date (.date d) c := by
  have settled := (settled_of_checked rfl checked).1
  have content : date.violations q (.date d) = date.limitViolations q (.date d) := rfl
  rw [content, mem_limitViolations]
  constructor
  · rintro (⟨low, limit, below, rfl⟩ | ⟨high, limit, above, rfl⟩)
    · obtain ⟨low, rfl, whole⟩ := (settled.least low limit).exists_date
      rw [order_date truncated whole, Option.some_inj, compare_lt_iff_lt] at below
      exact .early limit below
    · obtain ⟨high, rfl, whole⟩ := (settled.greatest high limit).exists_date
      rw [order_date truncated whole, Option.some_inj, compare_gt_iff_gt] at above
      exact .late limit above
  · -- The limits of a checked definition are in whole milliseconds.
    intro broken
    cases broken with
    | @early _ low limit early =>
      obtain ⟨_, ⟨⟩, whole⟩ := (settled.least _ limit).exists_date
      refine .inl ⟨_, limit, ?_, rfl⟩
      rwa [order_date truncated whole, Option.some_inj, compare_lt_iff_lt]
    | @late _ high limit late =>
      obtain ⟨_, ⟨⟩, whole⟩ := (settled.greatest _ limit).exists_date
      refine .inr ⟨_, limit, ?_, rfl⟩
      rwa [order_date truncated whole, Option.some_inj, compare_gt_iff_gt]

/-- Under a checked definition, validation finds the constraints that a canonical value breaks. -/
theorem mem_violations_iff [Pattern.Reader] (typed : t ∈ exactTypes)
    (checked : t.checkDefinition p = (q, []))
    (canonical : Canonical q t v) : c ∈ t.violations q v ↔ Breaks q t v c := by
  have invalid (typed : t ≠ .any) : c ∈ t.violations q .invalid ↔ Breaks q t .invalid c := by
    rw [violations_invalid typed, List.mem_singleton]
    exact ⟨fun eq => eq ▸ .kind t, fun broken => by cases broken; rfl⟩
  cases canonical with
  | null =>
    rw [violations_null]
    cases required : q.required
    · refine ⟨fun found => absurd found (by simp), fun broken => ?_⟩
      cases broken with
      | missing _ demanded => exact absurd demanded (by simp [required])
    · rw [if_pos rfl, List.mem_singleton]
      refine ⟨fun eq => eq ▸ .missing _ required, fun broken => ?_⟩
      cases broken with
      | missing => rfl
  | text => exact mem_violations_string checked _
  | whole i => exact mem_violations_integer checked i
  | date truncated => exact mem_violations_date checked truncated
  | noWhole => exact invalid (by decide)
  | noDate => exact invalid (by decide)
  | truth b => exact ⟨fun found => absurd found List.not_mem_nil, fun broken => by cases broken⟩
  | identity u => exact ⟨fun found => absurd found List.not_mem_nil, fun broken => by cases broken⟩
  | number => exact absurd typed (by decide)
  | noNumber => exact absurd typed (by decide)
  | any => exact absurd typed (by decide)

/-! A value that breaks nothing satisfies the definition, and no other does. -/

theorem satisfies_null [Pattern.Reader] (t : ScalarType) :
    Satisfies q t .null ↔ ∀ c, ¬ Breaks q t .null c := by
  constructor
  · intro satisfied c broken
    cases satisfied with
    | absent _ optional =>
      cases broken with
      | missing _ required => simp [optional] at required
  · intro unbroken
    refine .absent _ ?_
    rw [← Bool.not_eq_true]
    exact fun required => unbroken _ (.missing _ required)

theorem satisfies_string [Pattern.Reader] (checked : string.checkDefinition p = (q, []))
    {s : String} (shaped : shape q s = s) :
    Satisfies q .string (.string s) ↔ ∀ c, ¬ Breaks q .string (.string s) c := by
  constructor
  · intro satisfied c broken
    cases satisfied with
    | text _ filled least most matching =>
      cases broken with
      | empty required => exact filled required rfl
      | short _ limit short => exact absurd (least _ limit) (by omega)
      | long _ limit long => exact absurd (most _ limit) (by omega)
      | unmatched _ pattern read unmatched =>
        obtain ⟨m, again, matched⟩ := matching _ pattern
        obtain rfl := Option.some.inj (read.symm.trans again)
        simp [unmatched] at matched
  · intro unbroken
    have filled : q.required = true → s ≠ "" := by
      rintro required rfl
      exact unbroken _ (.empty required)
    refine .text shaped filled (fun n limit => ?_) (fun n limit => ?_) fun source pattern => ?_
    · by_contra short
      exact unbroken _ (.short filled limit (by omega))
    · by_contra long
      exact unbroken _ (.long filled limit (by omega))
    · obtain ⟨m, read⟩ := (matcher_of_checked checked).2 source pattern
      refine ⟨m, read, ?_⟩
      by_contra unmatched
      exact unbroken _ (.unmatched filled pattern read (by simpa using unmatched))

theorem satisfies_integer [Pattern.Reader] (checked : integer.checkDefinition p = (q, []))
    (i : Int64) :
    Satisfies q .integer (.integer i) ↔ ∀ c, ¬ Breaks q .integer (.integer i) c := by
  have settled := (settled_of_checked rfl checked).1
  constructor
  · intro satisfied c broken
    cases satisfied with
    | whole least greatest multiple =>
      cases broken with
      | below limit below =>
        obtain ⟨_, ⟨⟩, kept⟩ := least _ limit
        omega
      | above limit above =>
        obtain ⟨_, ⟨⟩, kept⟩ := greatest _ limit
        omega
      | between given between => exact between (multiple _ given)
  · intro unbroken
    refine .whole (fun low limit => ?_) (fun high limit => ?_) fun step given => ?_
    · obtain ⟨m, rfl⟩ := (settled.least low limit).exists_whole
      refine ⟨m, rfl, ?_⟩
      by_contra below
      exact unbroken _ (.below limit (by omega))
    · obtain ⟨m, rfl⟩ := (settled.greatest high limit).exists_whole
      refine ⟨m, rfl, ?_⟩
      by_contra above
      exact unbroken _ (.above limit (by omega))
    · by_contra between
      exact unbroken _ (.between given between)

theorem satisfies_date [Pattern.Reader] (checked : date.checkDefinition p = (q, []))
    {d : Instant} (truncated : d.truncate? = some d) :
    Satisfies q .date (.date d) ↔ ∀ c, ¬ Breaks q .date (.date d) c := by
  have settled := (settled_of_checked rfl checked).1
  constructor
  · intro satisfied c broken
    cases satisfied with
    | date _ least greatest =>
      cases broken with
      | early limit early =>
        obtain ⟨_, ⟨⟩, kept⟩ := least _ limit
        omega
      | late limit late =>
        obtain ⟨_, ⟨⟩, kept⟩ := greatest _ limit
        omega
  · intro unbroken
    refine .date truncated (fun low limit => ?_) fun high limit => ?_
    · obtain ⟨e, rfl, -⟩ := (settled.least low limit).exists_date
      refine ⟨e, rfl, ?_⟩
      by_contra early
      exact unbroken _ (.early limit (by omega))
    · obtain ⟨e, rfl, -⟩ := (settled.greatest high limit).exists_date
      refine ⟨e, rfl, ?_⟩
      by_contra late
      exact unbroken _ (.late limit (by omega))

theorem satisfies_iff [Pattern.Reader] (typed : t ∈ exactTypes)
    (checked : t.checkDefinition p = (q, []))
    (canonical : Canonical q t v) : Satisfies q t v ↔ ∀ c, ¬ Breaks q t v c := by
  have invalid (t : ScalarType) : Satisfies q t .invalid ↔ ∀ c, ¬ Breaks q t .invalid c :=
    ⟨fun satisfied => (by cases satisfied), fun unbroken => absurd (.kind t) (unbroken _)⟩
  cases canonical with
  | null => exact satisfies_null t
  | text shaped => exact satisfies_string checked shaped
  | whole i => exact satisfies_integer checked i
  | date truncated => exact satisfies_date checked truncated
  | noWhole => exact invalid _
  | noDate => exact invalid _
  | truth b => exact iff_of_true (.truth b) fun c broken => by cases broken
  | identity u => exact iff_of_true (.identity u) fun c broken => by cases broken
  | number => exact absurd typed (by decide)
  | noNumber => exact absurd typed (by decide)
  | any => exact absurd typed (by decide)

end Violations

/-- Validation of a coerced value keeps what was found before, and adds each constraint that the
value breaks under the checked definition, once. It adds nothing if the value satisfies the
definition, and only then. For a required text that is empty it adds nothing but that. -/
theorem violations_exact [Pattern.Reader] {t : ScalarType} (typed : t ∈ exactTypes) {p q : Property}
    (checked : t.checkDefinition p = (q, [])) (default : Option Value) (raw : Value)
    (name : String) (found : List Violation) :
    ∃ broken : List Constraint,
      t.report name q (t.coerce q default raw) found =
          found ++ broken.map (fun c => ⟨name, c⟩) ∧
        broken.Nodup ∧ (∀ c, c ∈ broken ↔ Breaks q t (t.coerce q default raw) c) ∧
        (broken = [] ↔ Satisfies q t (t.coerce q default raw)) ∧
        (q.required = true → t.coerce q default raw = .string "" → broken = [.presence]) := by
  have canonical := canonical_coerce t q default raw
  have exact c := mem_violations_iff (c := c) typed checked canonical
  have limited : t ≠ .number := by
    rintro rfl
    exact absurd typed (by decide)
  refine ⟨t.violations q (t.coerce q default raw), rfl, nodup_violations limited _ _, exact, ?_, ?_⟩
  · rw [satisfies_iff typed checked canonical, List.eq_nil_iff_forall_not_mem]
    exact forall_congr' fun c => not_congr (exact c)
  · intro required empty
    rw [empty] at canonical ⊢
    cases canonical with
    | text => exact textViolations_of_blank required
    | any => exact absurd typed (by decide)

/-- Limits in the wrong order, one of them a text, and a step that 128 bits do not hold. -/
def farApart : Property :=
  { required := true, min := some (.string " 9 "), max := some (.integer 3),
    step := some (Binary64.ofDecimal false 1 40) }

def farApartChecked : Property :=
  { farApart with min := some (.integer 3), max := some (.integer 9) }

/-- A number above both limits breaks the limit and the step, after what was found before. -/
theorem violations_exact_farApart :
    integer.checkDefinition farApart = (farApartChecked, []) ∧
      integer.report "rank" farApartChecked (integer.coerce farApartChecked none (.string " 12"))
          [⟨"name", .presence⟩] =
        [⟨"name", .presence⟩, ⟨"rank", .greatest (.integer 9)⟩,
          ⟨"rank", .wholeStep (2 ^ 127 - 1) 3⟩] ∧
      Breaks farApartChecked integer (.integer 12) (.wholeStep (2 ^ 127 - 1) 3) := by
  have checked : integer.checkDefinition farApart = (farApartChecked, []) := rfl
  have whole : integer.coerce farApartChecked none (.string " 12") = .integer 12 := by
    decide +kernel
  have found : integer.report "rank" farApartChecked (.integer 12) [⟨"name", .presence⟩] =
      [⟨"name", .presence⟩, ⟨"rank", .greatest (.integer 9)⟩,
        ⟨"rank", .wholeStep (2 ^ 127 - 1) 3⟩] := by decide +kernel
  obtain ⟨broken, reported, -, exact, -⟩ := violations_exact (by decide) checked none
    (.string " 12") "rank" [⟨"name", .presence⟩]
  rw [whole] at reported exact ⊢
  refine ⟨checked, found, (exact _).1 ?_⟩
  rw [found] at reported
  have added : (⟨"rank", .wholeStep (2 ^ 127 - 1) 3⟩ : Violation) ∈
      broken.map fun c => ⟨"rank", c⟩ := by
    have rest : broken.map (fun c => (⟨"rank", c⟩ : Violation)) = _ :=
      (List.append_cancel_left (reported.symm.trans (List.singleton_append).symm))
    rw [rest]
    exact List.mem_cons_of_mem _ (List.mem_singleton_self _)
  obtain ⟨c, mem, eq⟩ := List.mem_map.1 added
  obtain ⟨-, rfl⟩ := Violation.mk.inj eq
  exact mem

end ScalarType

end EntityStore
