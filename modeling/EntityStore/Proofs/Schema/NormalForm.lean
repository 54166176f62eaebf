import EntityStore.Item
import EntityStore.Proofs.ScalarType.Limits
import EntityStore.Proofs.Schema.Accepted

set_option autoImplicit false

/-! # The normal form of a definition

What the normalisation of a definition leaves is in normal form (`Property.IsNormal`), and what is
in normal form it leaves alone. Limits may be given in either order: exchanging them gives an equal
definition (`Property.Equals`), and for whole numbers and dates the same one. Only among numbers are
there limits that are level and yet two: zero has two signs, and the limits keep their places. -/

namespace EntityStore

section Reader

variable [Pattern.Reader]

/-! ## The check of a definition -/

namespace ScalarType

variable {t : ScalarType} {p q : Property}

/-- The name of the type plays no part in the check of a definition with limits. -/
theorem checkDefinition_with_typeName (limited : t.hasLimits = true) (p : Property)
    (typeName : String) : t.checkDefinition { p with typeName } =
      ({ p with
          typeName
          min := (t.arranged (t.limit p.min).1 (t.limit p.max).1).1
          max := (t.arranged (t.limit p.min).1 (t.limit p.max).1).2 },
        (t.checkLimits p).2 ++ t.stepFaults p) := by
  rw [checkDefinition_of_hasLimits limited, checkLimits_fst]
  rfl

/-- Whether two lengths, so far as they are given, are in order. -/
def LengthsInOrder (p : Property) : Prop :=
  ∀ a b, p.minLength = some a → p.maxLength = some b → a ≤ b

theorem lengthsInOrder_checkText (p : Property) : LengthsInOrder (checkText p).1 := by
  intro a b least most
  unfold checkText at least most
  dsimp only at least most
  cases low : p.minLength with
  | none => simp [low] at least
  | some m =>
    cases high : p.maxLength with
    | none => simp [low, high] at most
    | some n =>
      simp only [low, high] at least most
      by_cases wrong : n < m
      · simp only [if_pos wrong, Option.some_inj] at least most
        omega
      · simp only [if_neg wrong, Option.some_inj] at least most
        omega

/-- Lengths in order are left alone, and a pattern is read again. -/
theorem checkText_fst_of_inOrder (inOrder : LengthsInOrder p) :
    (checkText p).1 = { p with matcher := p.pattern.bind Pattern.ofText? } := by
  unfold checkText
  dsimp only
  cases low : p.minLength with
  | none => cases p.maxLength <;> rfl
  | some m =>
    cases high : p.maxLength with
    | none => rfl
    | some n => simp only [if_neg (Nat.not_lt.2 (inOrder m n low high))]

/-- Two lengths may be given in either order. -/
theorem checkText_exchanged {a b : Nat} (least : p.minLength = some a)
    (most : p.maxLength = some b) :
    checkText { p with minLength := p.maxLength, maxLength := p.minLength } = checkText p := by
  unfold checkText
  dsimp only
  rw [least, most]
  rcases lt_trichotomy a b with lt | rfl | gt
  · simp only [if_pos lt, if_neg (Nat.lt_asymm lt)]
  · rfl
  · simp only [if_pos gt, if_neg (Nat.lt_asymm gt)]

/-- A check of what has been checked without a fault finds no fault and changes nothing. -/
theorem checkDefinition_checked (checked : t.checkDefinition p = (q, [])) :
    t.checkDefinition q = (q, []) := by
  by_cases limited : t.hasLimits = true
  · obtain ⟨settled, faultless⟩ := settled_of_checked limited checked
    rw [checkDefinition_of_hasLimits limited, checkLimits_of_settled settled, faultless]
    rfl
  · cases t with
    | string =>
      obtain rfl : (checkText p).1 = q := congrArg Prod.fst checked
      have faultless : (checkText p).2 = [] := congrArg Prod.snd checked
      exact Prod.ext (checkText_fst_of_inOrder (lengthsInOrder_checkText p)) faultless
    | boolean | uuid | any => exact Prod.ext rfl rfl
    | integer | number | date => exact absurd rfl limited

/-- The default plays no part in the check of a definition. -/
theorem checkDefinition_with_default (t : ScalarType) (p : Property) (default : Option Value) :
    t.checkDefinition { p with default } =
      ({ (t.checkDefinition p).1 with default }, (t.checkDefinition p).2) := by
  cases t <;> rfl

omit [Pattern.Reader] in
/-- The default of a definition is not the one that coercion uses. -/
@[simp]
theorem coerce_with_default (t : ScalarType) (p : Property) (default input : Option Value)
    (v : Value) : t.coerce { p with default } input v = t.coerce p input v := by
  cases t <;> rfl

end ScalarType

/-! ## Definitions in normal form -/

namespace Property

variable {p : Property}

/-- Limits and defaults have the form of a value, and limits and lengths are in order. -/
structure IsNormal (q : Property) : Prop where
  least : q.type.hasLimits = true → ∀ v, q.min = some v →
    v.isNull = false ∧ v.isInvalid = false ∧ ∀ d, q.type.coerce d none v = v
  greatest : q.type.hasLimits = true → ∀ v, q.max = some v →
    v.isNull = false ∧ v.isInvalid = false ∧ ∀ d, q.type.coerce d none v = v
  ordered : q.type.hasLimits = true → ∀ a b, q.min = some a → q.max = some b →
    q.type.compare .atMost a [b] = true
  lengths : q.type = .string → ScalarType.LengthsInOrder q
  default : ∀ v, q.default = some v →
    v.isNull = false ∧ v.isInvalid = false ∧ q.type.coerce q none v = v

theorem IsSound.type_mem (sound : p.IsSound) : p.type ∈ ScalarType.all := by
  obtain ⟨t, known⟩ := Option.isSome_iff_exists.1 sound.known
  rw [type_of_ofName? known]
  exact ScalarType.mem_all_of_ofName? known

theorem IsSound.checked_eq (sound : p.IsSound) : p.checked = (p.checked.1, []) := by
  rw [← sound.faultless]

@[simp]
theorem normal_typeName (p : Property) : p.normal.typeName = p.type.name := by
  unfold normal checked
  dsimp only
  rw [ScalarType.checkDefinition_typeName]

theorem IsSound.normal_type (sound : p.IsSound) : p.normal.type = p.type := by
  rw [type, normal_typeName, ScalarType.ofName?_name sound.type_mem, Option.getD_some]

/-- The default in normal form is a value, and left alone. -/
theorem normal_default {v : Value} (h : p.normal.default = some v) :
    v.isNull = false ∧ v.isInvalid = false ∧ p.type.coerce p.normal none v = v := by
  obtain ⟨given, present⟩ := Option.filter_eq_some_iff.1 h
  obtain ⟨raw, -, rfl⟩ := Option.map_eq_some_iff.1 given
  have canonical := ScalarType.canonical_coerce p.type p.checked.1 none raw
  rw [Bool.and_eq_true, Bool.not_eq_true', Bool.not_eq_true'] at present
  refine ⟨present.2, present.1, ?_⟩
  rw [normal, ScalarType.coerce_with_default]
  exact canonical.coerce_eq

/-- The check leaves a definition in normal form alone. -/
theorem IsSound.checked_normal (sound : p.IsSound) : p.normal.checked = (p.normal, []) := by
  have named : { p.normal with typeName := p.type.name } = p.normal := by
    rw [← normal_typeName]
  have again := ScalarType.checkDefinition_checked sound.checked_eq
  rw [checked, sound.normal_type, named, normal, ScalarType.checkDefinition_with_default, again]

theorem IsSound.normalDefault?_normal (sound : p.IsSound) :
    p.normal.normalDefault? = p.normal.default := by
  rw [normalDefault?, sound.checked_normal, sound.normal_type]
  cases h : p.normal.default with
  | none => rfl
  | some v => rw [Option.map_some, (normal_default h).2.2]

/-- The normal form is sound. -/
theorem IsSound.isSound_normal (sound : p.IsSound) : p.normal.IsSound where
  known := by
    rw [normal_typeName, ScalarType.ofName?_name sound.type_mem, Option.isSome_some]
  faultless := by rw [sound.checked_normal]
  default v h := by
    rw [sound.normalDefault?_normal] at h
    exact (normal_default h).2.1

/-- The normal form is its own normal form. -/
theorem IsSound.normal_normal (sound : p.IsSound) : p.normal.normal = p.normal := by
  have kept : p.normal.default.filter (fun v => !v.isInvalid && !v.isNull) = p.normal.default := by
    cases h : p.normal.default with
    | none => rfl
    | some v =>
      obtain ⟨null, invalid, -⟩ := normal_default h
      simp [Option.filter, null, invalid]
  rw [normal, sound.checked_normal, sound.normalDefault?_normal, kept]

/-- The limits in normal form have been checked. -/
theorem settled_normal (limited : p.type.hasLimits = true) :
    p.type.Settled p.normal.min p.normal.max := by
  unfold normal checked
  dsimp only
  rw [ScalarType.checkDefinition_of_hasLimits limited]
  exact ScalarType.settled_checkLimits _ _

/-- The normal form is in normal form. -/
theorem IsSound.isNormal_normal (sound : p.IsSound) : p.normal.IsNormal := by
  have typed := sound.normal_type
  refine ⟨?_, ?_, ?_, ?_, ?_⟩
  · intro limited v least
    rw [typed] at limited ⊢
    have limit := (settled_normal limited).least v least
    exact ⟨limit.isNull, limit.isInvalid, limit.coerce_eq limited⟩
  · intro limited v greatest
    rw [typed] at limited ⊢
    have limit := (settled_normal limited).greatest v greatest
    exact ⟨limit.isNull, limit.isInvalid, limit.coerce_eq limited⟩
  · intro limited a b least greatest
    rw [typed] at limited ⊢
    exact (settled_normal limited).atMost limited least greatest
  · intro string
    rw [typed] at string
    unfold normal checked
    rw [string]
    exact ScalarType.lengthsInOrder_checkText _
  · intro v given
    rw [typed]
    exact normal_default given

/-! ## Limits given in either order -/

/-- The definition with its limits exchanged. -/
def exchanged (p : Property) : Property := { p with min := p.max, max := p.min }

/-- Definitions that agree, their limits being the same values. -/
structure Equals (q r : Property) : Prop where
  rest : r = { q with min := r.min, max := r.max }
  min : Item.sameOrMissing q.min r.min = true
  max : Item.sameOrMissing q.max r.max = true

/-- The limits in normal form. -/
theorem checked_of_hasLimits (limited : p.type.hasLimits = true) : p.checked =
    ({ p with
        typeName := p.type.name
        min := (p.type.arranged (p.type.limit p.min).1 (p.type.limit p.max).1).1
        max := (p.type.arranged (p.type.limit p.min).1 (p.type.limit p.max).1).2 },
      (p.type.checkLimits p).2 ++ p.type.stepFaults p) := by
  rw [checked, ScalarType.checkDefinition_with_typeName limited]

/-- A limit is one in the form of its type, if it amounts to a value and is not faulty. -/
theorem IsSound.limit_of_coerce (sound : p.IsSound) (limited : p.type.hasLimits = true) :
    (∀ low, p.min = some low → (p.type.coerce {} none low).isNull = false →
      ∃ a, (p.type.limit p.min).1 = some a ∧ p.type.IsLimit a) ∧
    (∀ high, p.max = some high → (p.type.coerce {} none high).isNull = false →
      ∃ b, (p.type.limit p.max).1 = some b ∧ p.type.IsLimit b) := by
  have faultless := sound.faultless
  rw [checked_of_hasLimits limited] at faultless
  obtain ⟨goodLow, goodHigh⟩ :=
    ScalarType.checkLimits_snd_eq_nil_iff.1 (List.append_eq_nil_iff.1 faultless).1
  have formed {raw : Option Value} (good : (p.type.limit raw).2 = none) (v : Value)
      (given : raw = some v) (null : (p.type.coerce {} none v).isNull = false) :
      ∃ a, (p.type.limit raw).1 = some a ∧ p.type.IsLimit a := by
    have invalid := ScalarType.limit_snd_eq_none_iff.1 good v given
    have found : (p.type.limit raw).1 = some (p.type.coerce {} none v) :=
      ScalarType.limit_fst_eq_some_iff.2 ⟨v, given, rfl, by simp [Comparison.isMissing, *]⟩
    exact ⟨_, found, ScalarType.isLimit_of_limit found⟩
  exact ⟨formed goodLow, formed goodHigh⟩

omit [Pattern.Reader] in
@[simp]
theorem exchanged_type (p : Property) : p.exchanged.type = p.type := rfl

/-- The default does not depend on the limits. -/
theorem exchanged_normalDefault? (limited : p.type.hasLimits = true) :
    p.exchanged.normalDefault? = p.normalDefault? := by
  unfold normalDefault?
  rw [exchanged_type]
  exact congrArg p.default.map (funext (ScalarType.coerce_congr limited _ _ none))

/-- Exchanging the limits changes nothing but where they are in normal form. -/
theorem exchanged_normal (limited : p.type.hasLimits = true) : p.exchanged.normal =
    { p.normal with
      min := (p.type.arranged (p.type.limit p.max).1 (p.type.limit p.min).1).1
      max := (p.type.arranged (p.type.limit p.max).1 (p.type.limit p.min).1).2 } := by
  have other : p.exchanged.type.hasLimits = true := limited
  rw [normal, exchanged_normalDefault? limited, checked_of_hasLimits other, normal,
    checked_of_hasLimits limited, exchanged_type]
  dsimp only [Property.exchanged]

theorem IsSound.exchanged (sound : p.IsSound) (limited : p.type.hasLimits = true) :
    p.exchanged.IsSound where
  known := sound.known
  faultless := by
    have faultless := sound.faultless
    have other : p.exchanged.type.hasLimits = true := limited
    rw [checked_of_hasLimits limited] at faultless
    rw [checked_of_hasLimits other, exchanged_type]
    dsimp only at faultless ⊢
    rw [List.append_eq_nil_iff, ScalarType.checkLimits_snd_eq_nil_iff] at faultless ⊢
    obtain ⟨⟨low, high⟩, steps⟩ := faultless
    have kept : p.type.stepFaults p.exchanged = p.type.stepFaults p :=
      ScalarType.stepFaults_congr rfl
    exact ⟨⟨high, low⟩, kept.trans steps⟩
  default := by
    rw [exchanged_normalDefault? limited]
    exact sound.default

omit [Pattern.Reader] in
theorem Equals.refl {q : Property} (least : Item.sameOrMissing q.min q.min = true)
    (greatest : Item.sameOrMissing q.max q.max = true) : q.Equals q := ⟨rfl, least, greatest⟩

/-- A definition in normal form agrees with itself. -/
theorem equals_normal (limited : p.type.hasLimits = true) : p.normal.Equals p.normal := by
  have settled := settled_normal limited
  have typed : p.type ≠ .any := by
    intro any
    rw [any] at limited
    exact absurd limited (by decide)
  have self {limit : Option Value} (formed : ∀ v, limit = some v → p.type.IsLimit v) :
      Item.sameOrMissing limit limit = true := by
    cases limit with
    | none => rfl
    | some v => exact (formed v rfl).canonical.same_self typed
  exact .refl (self settled.least) (self settled.greatest)

/-- Two limits that amount to values may be given in either order. -/
theorem IsSound.exchanged_equals (sound : p.IsSound) (limited : p.type.hasLimits = true)
    {low high : Value} (least : p.min = some low) (greatest : p.max = some high)
    (hl : (p.type.coerce {} none low).isNull = false)
    (hh : (p.type.coerce {} none high).isNull = false) :
    p.normal.Equals p.exchanged.normal ∧ (p.type ≠ .number → p.exchanged.normal = p.normal) := by
  obtain ⟨a, foundLow, limitLow⟩ := (sound.limit_of_coerce limited).1 low least hl
  obtain ⟨b, foundHigh, limitHigh⟩ := (sound.limit_of_coerce limited).2 high greatest hh
  have eq := exchanged_normal limited
  have min : p.normal.min = (p.type.arranged (some a) (some b)).1 := by
    rw [normal, checked_of_hasLimits limited, foundLow, foundHigh]
  have max : p.normal.max = (p.type.arranged (some a) (some b)).2 := by
    rw [normal, checked_of_hasLimits limited, foundLow, foundHigh]
  rw [foundLow, foundHigh] at eq
  rcases ScalarType.arranged_comm limited limitLow limitHigh with same | ⟨typed, same, ab, ba⟩
  · have equal : p.exchanged.normal = p.normal := by rw [eq, same, ← min, ← max]
    rw [equal]
    exact ⟨equals_normal limited, fun _ => rfl⟩
  · -- Both limits are zero, with different signs.
    rw [ba] at eq
    rw [ab] at min max
    refine ⟨⟨by rw [eq], ?_, ?_⟩, fun other => absurd typed other⟩
    · rw [eq, min]
      exact same.1
    · rw [eq, max]
      exact same.2

/-! ## Limits that are none, and lengths -/

/-- The limits of a type that has none are carried along. -/
theorem checkDefinition_exchanged {t : ScalarType} (unlimited : t.hasLimits = false)
    (p : Property) : t.checkDefinition p.exchanged =
      ((t.checkDefinition p).1.exchanged, (t.checkDefinition p).2) := by
  cases t <;> first | rfl | cases unlimited

omit [Pattern.Reader] in
@[simp]
theorem coerce_exchanged (t : ScalarType) (p : Property) (default : Option Value) (v : Value) :
    t.coerce p.exchanged default v = t.coerce p default v := by
  cases t <;> rfl

/-- Exchanging what limits nothing exchanges it in normal form. -/
theorem IsSound.exchanged_of_unlimited (sound : p.IsSound) (unlimited : p.type.hasLimits = false) :
    p.exchanged.IsSound ∧ p.exchanged.normal = p.normal.exchanged := by
  have checked : p.exchanged.checked = (p.checked.1.exchanged, p.checked.2) := by
    unfold Property.checked
    rw [exchanged_type, ← checkDefinition_exchanged unlimited]
    dsimp only [Property.exchanged]
  have default : p.exchanged.normalDefault? = p.normalDefault? := by
    unfold normalDefault?
    rw [exchanged_type, checked]
    exact congrArg p.default.map (funext (coerce_exchanged p.type p.checked.1 none))
  refine ⟨⟨sound.known, ?_, ?_⟩, ?_⟩
  · rw [checked]
    dsimp only
    exact sound.faultless
  · rw [default]
    exact sound.default
  · rw [normal, default, checked, normal]
    dsimp only [Property.exchanged]

/-- Two lengths may be given in either order. -/
theorem IsSound.lengths_exchanged (sound : p.IsSound) (string : p.type = .string) {a b : Nat}
    (least : p.minLength = some a) (most : p.maxLength = some b) {q : Property}
    (exchanged : q = { p with minLength := p.maxLength, maxLength := p.minLength }) :
    q.IsSound ∧ q.normal = p.normal := by
  have named : q.typeName = p.typeName := by rw [exchanged]
  have typed : q.type = p.type := by rw [type, named, type]
  have checked : q.checked = p.checked := by
    unfold Property.checked
    rw [typed, string, exchanged]
    exact ScalarType.checkText_exchanged (p := { p with typeName := ScalarType.string.name })
      least most
  have given : q.default = p.default := by rw [exchanged]
  have default : q.normalDefault? = p.normalDefault? := by
    rw [normalDefault?, normalDefault?, checked, typed, given]
  refine ⟨⟨?_, ?_, ?_⟩, ?_⟩
  · rw [named]
    exact sound.known
  · rw [checked]
    exact sound.faultless
  · rw [default]
    exact sound.default
  · rw [normal, default, checked, normal]

end Property

/-! ## Normalisation -/

theorem normalProperty_of_isSound (name : String) {p : Property} (sound : p.IsSound) :
    normalProperty name p = (some p.normal, []) := by
  obtain ⟨t, known⟩ := Option.isSome_iff_exists.1 sound.known
  refine Prod.ext ?_ ((normalProperty_clean_iff name p).2 sound)
  rw [normalProperty_fst, known, Option.map_some]

/-- A definition without problems has a normal form, which is its own. Limits may be given in either
order; what the type does not take for limits is left as it is. -/
theorem normalProperty_reaches (name : String) (p : Property)
    (accepted : (normalProperty name p).2 = []) :
    ∃ q, normalProperty name p = (some q, []) ∧ q.IsNormal ∧
      normalProperty name q = (some q, []) ∧
      (p.type.hasLimits = true → ∀ low high, p.min = some low → p.max = some high →
        (p.type.coerce {} none low).isNull = false → (p.type.coerce {} none high).isNull = false →
        ∃ r, normalProperty name p.exchanged = (some r, []) ∧ q.Equals r ∧
          (p.type ≠ .number → r = q)) ∧
      (p.type.hasLimits = false → normalProperty name p.exchanged = (some q.exchanged, [])) ∧
      (p.type = .string → ∀ a b, p.minLength = some a → p.maxLength = some b →
        normalProperty name { p with minLength := p.maxLength, maxLength := p.minLength } =
          (some q, [])) := by
  have sound := (normalProperty_clean_iff name p).1 accepted
  refine ⟨p.normal, normalProperty_of_isSound name sound, sound.isNormal_normal, ?_, ?_, ?_, ?_⟩
  · rw [normalProperty_of_isSound name sound.isSound_normal, sound.normal_normal]
  · intro limited low high least greatest hl hh
    obtain ⟨equal, same⟩ := sound.exchanged_equals limited least greatest hl hh
    exact ⟨_, normalProperty_of_isSound name (sound.exchanged limited), equal, same⟩
  · intro unlimited
    obtain ⟨other, eq⟩ := sound.exchanged_of_unlimited unlimited
    rw [normalProperty_of_isSound name other, eq]
  · intro string a b least most
    obtain ⟨other, eq⟩ := sound.lengths_exchanged string least most rfl
    rw [normalProperty_of_isSound name other, eq]

end Reader

/-- A definition of whole numbers whose limits are a text and a truth value, in the wrong order. -/
def mixedLimits : Property :=
  { typeName := " Int ", min := some (.string " 9 "), max := some (.bool true),
    default := some (.string "4.75") }

/-- The limits are whole numbers in order, and so is the default. -/
theorem normalProperty_reaches_mixedLimits :
    (normalProperty "rank" mixedLimits).2 = [] ∧
      ∃ q, normalProperty "rank" mixedLimits = (some q, []) ∧
        (q.typeName, q.min, q.max, q.default) =
          ("integer", some (.integer 1), some (.integer 9), some (.integer 5)) ∧
        normalProperty "rank" q = (some q, []) ∧
        normalProperty "rank" mixedLimits.exchanged = (some q, []) := by
  have accepted : (normalProperty "rank" mixedLimits).2 = [] :=
    List.isEmpty_iff.1 (by decide +kernel)
  have fields : (normalProperty "rank" mixedLimits).1.map
      (fun q => (q.typeName, q.min, q.max, q.default)) =
        some ("integer", some (.integer 1), some (.integer 9), some (.integer 5)) := by
    decide +kernel
  have typed : mixedLimits.type = .integer := by decide +kernel
  obtain ⟨q, reached, -, fixed, exchange, -, -⟩ :=
    normalProperty_reaches "rank" mixedLimits accepted
  rw [typed] at exchange
  obtain ⟨r, other, -, same⟩ := exchange rfl _ _ rfl rfl (by decide +kernel) (by decide +kernel)
  rw [reached] at fields
  rw [same (by decide)] at other
  exact ⟨accepted, q, reached, Option.some.inj fields, fixed, other⟩

end EntityStore
