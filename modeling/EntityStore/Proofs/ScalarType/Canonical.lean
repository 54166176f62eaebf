import EntityStore.Proofs.Number.Finite
import EntityStore.Proofs.ScalarType.Shape
import EntityStore.Proofs.Time.Text
import EntityStore.Proofs.Uuid
import EntityStore.ScalarType.Storage

set_option autoImplicit false

/-! # Canonical values, and their stored forms

Each type keeps values of few kinds, and in a certain form: these are its canonical values
(`ScalarType.Canonical`). Coercion gives canonical values and leaves them alone, so coercing twice
is coercing once (`coerce_coerce`). From its stored form a canonical value is restored, unless it is
invalid or a date outside of the years 0 to 9999 (`Canonical.deserialize_serialize`). -/

namespace EntityStore

/-- The values that a type keeps, under the definition of a property. -/
inductive ScalarType.Canonical (p : Property) : ScalarType → Value → Prop
  | null (t : ScalarType) : Canonical p t .null
  | text {s : String} (shaped : shape p s = s) : Canonical p .string (.string s)
  | whole (i : Int64) : Canonical p .integer (.integer i)
  | noWhole : Canonical p .integer .invalid
  | number {x : Binary64} (finite : x.isFinite = true) : Canonical p .number (.number x)
  | noNumber : Canonical p .number .invalid
  | truth (b : Bool) : Canonical p .boolean (.bool b)
  | date {t : Instant} (whole : t.truncate? = some t) : Canonical p .date (.date t)
  | noDate : Canonical p .date .invalid
  | identity (u : Uuid) : Canonical p .uuid (.uuid u)
  | any (v : Value) : Canonical p .any v

/-- Whether a value is not a date outside of the years 0 to 9999. -/
def Value.hasPlainYear : Value → Bool
  | .date t => 0 ≤ t.year && t.year ≤ 9999
  | _ => true

namespace ScalarType

variable {p : Property}

/-! ## What coercion gives -/

theorem canonical_toString (v : Value) : Canonical p .string (toString p v) := by
  unfold toString
  split
  · exact .text (shape_shape p _)
  · exact .null _

theorem canonical_wholeOf (x : Binary64) : Canonical p .integer (wholeOf x) := by
  unfold wholeOf
  split
  · exact .noWhole
  · split
    · exact .whole _
    · exact .noWhole

theorem canonical_toWhole (v : Value) : Canonical p .integer (toWhole v) := by
  unfold toWhole
  split
  · exact .whole _
  · exact canonical_wholeOf _
  · exact .whole _
  · exact .whole _
  · dsimp only
    split
    · exact .null _
    · split
      · exact .whole _
      · split
        · exact canonical_wholeOf _
        · exact .noWhole
  · exact .null _
  all_goals exact .noWhole

theorem canonical_finite (x : Binary64) : Canonical p .number (finite x) := by
  unfold finite
  split
  · next h => exact .number h
  · exact .noNumber

theorem natAbs_millis_lt (t : Instant) : t.millis.natAbs < 2 ^ 65 := by
  obtain ⟨low, high, length⟩ := t.inRange
  unfold earliestSecond at low
  unfold latestSecond at high
  unfold Instant.millis
  omega

theorem canonical_toNumber (v : Value) : Canonical p .number (toNumber v) := by
  unfold toNumber
  split
  · exact canonical_finite _
  · next i =>
    have low := i.le_toInt
    have high := i.toInt_lt
    exact .number (Binary64.ofInt_isFinite (by omega))
  · next b => exact .number (Binary64.ofInt_isFinite (by cases b <;> decide))
  · next t => exact .number (Binary64.ofInt_isFinite (natAbs_millis_lt t))
  · dsimp only
    split
    · exact .null _
    · split
      · exact canonical_finite _
      · exact .noNumber
  · exact .null _
  all_goals exact .noNumber

theorem canonical_toBoolean (v : Value) : Canonical p .boolean (toBoolean v) := by
  unfold toBoolean
  split
  · exact .truth _
  · exact .truth _
  · split
    · exact .null _
    · exact .truth _
  · dsimp only
    split
    · exact .truth _
    · split
      · exact .truth _
      · exact .null _
  all_goals exact .null _

theorem canonical_dateOr (ms : Int) : Canonical p .date (dateOr (Instant.ofMillis? ms)) := by
  cases h : Instant.ofMillis? ms with
  | none => exact .noDate
  | some t => exact .date (Instant.truncate?_of_ofMillis? h)

theorem canonical_dateOfText (s : String) : Canonical p .date (dateOfText s) := by
  unfold dateOfText Instant.ofText?
  dsimp only
  split
  · exact .null _
  · cases Instant.textMillis? (Text.trim s) with
    | none => exact .noDate
    | some ms => exact canonical_dateOr ms

theorem canonical_toDate (v : Value) : Canonical p .date (toDate v) := by
  unfold toDate
  split
  · exact canonical_dateOr _
  · exact canonical_dateOr _
  · split
    · exact canonical_dateOr _
    · exact .noDate
  · exact canonical_dateOfText _
  · exact .null _
  all_goals exact .noDate

theorem canonical_toIdentity (v : Value) : Canonical p .uuid (toIdentity v) := by
  unfold toIdentity
  split
  · exact .identity _
  · exact .null _

/-- Coercion gives canonical values, whatever the default is. -/
theorem canonical_coerce (t : ScalarType) (p : Property) (default : Option Value) (v : Value) :
    Canonical p t (t.coerce p default v) := by
  cases t with
  | string => exact canonical_toString _
  | integer => exact canonical_toWhole _
  | number => exact canonical_toNumber _
  | boolean => exact canonical_toBoolean _
  | date => exact canonical_toDate _
  | uuid => exact canonical_toIdentity _
  | any => exact .any _

/-- Coercion leaves canonical values alone. -/
theorem Canonical.coerce_eq {t : ScalarType} {v : Value} (h : Canonical p t v) :
    t.coerce p none v = v := by
  cases h with
  | null => cases t <;> rfl
  | text shaped => exact congrArg Value.string shaped
  | number finite => exact if_pos finite
  | date whole => exact congrArg dateOr whole
  | any v => cases v <;> rfl
  | _ => rfl

/-- A canonical value is the same as itself: none is a number that is no number. -/
theorem Canonical.same_self {t : ScalarType} {v : Value} (h : Canonical p t v) (typed : t ≠ .any) :
    v.same v = true := by
  cases h with
  | number finite =>
    have number := Binary64.isNaN_of_isFinite finite
    exact Binary64.equals_iff.2 ⟨number, number, rfl⟩
  | any v => exact absurd rfl typed
  | _ => simp [Value.same]

/-- What was coerced once, with any default, is left alone by coercion, for all types that have
names. -/
theorem coerce_coerce {t : ScalarType} (named : t ∈ all) (p : Property) (default : Option Value)
    (v : Value) :
    t.coerce p none (t.coerce p default v) = t.coerce p default v ∧
      (t.coerce p none (t.coerce p default v)).same (t.coerce p default v) = true := by
  have canonical := canonical_coerce t p default v
  have typed : t ≠ .any := by
    rintro rfl
    exact absurd named (by decide)
  rw [canonical.coerce_eq]
  exact ⟨rfl, canonical.same_self typed⟩

/-- Texts without superfluous blanks, in lower case. -/
def tidy : Property := { trim := true, reduceSpace := true, lowerCase := true }

/-- The default is tidied, and so are texts; one of the letters becomes two. -/
theorem coerce_coerce_tidy :
    ScalarType.string ∈ all ∧
      ScalarType.string.coerce tidy (some (.string "  KÂTİP \t EFENDİ\n")) .null =
        .string "kâti\u0307p efendi\u0307" ∧
      ScalarType.string.coerce tidy none (.string "kâti\u0307p efendi\u0307") =
        .string "kâti\u0307p efendi\u0307" := by
  have named : ScalarType.string ∈ all := by decide
  have once : ScalarType.string.coerce tidy (some (.string "  KÂTİP \t EFENDİ\n")) .null =
      .string "kâti\u0307p efendi\u0307" := by decide +kernel
  refine ⟨named, once, ?_⟩
  have twice := (coerce_coerce named tidy (some (.string "  KÂTİP \t EFENDİ\n")) .null).1
  rwa [once] at twice

/-! ## Stored forms -/

/-- The text of a date, to the millisecond, stands for it. -/
theorem dateOfText_toText {t : Instant} (hy : 0 ≤ t.year ∧ t.year ≤ 9999)
    (whole : t.truncate? = some t) : dateOfText t.toText = .date t := by
  obtain ⟨hn, -⟩ := Instant.nanos_of_truncate? whole
  have read := Instant.ofText?_toText hy whole
  -- An empty text would stand for no date.
  have filled : t.toText.isEmpty = false := Instant.toText_isEmpty t
  unfold dateOfText
  rw [Instant.trim_toText hy hn]
  dsimp only
  rw [filled, read]
  rfl

theorem toIdentity_storedIdentity (binary : Bool) (u : Uuid) :
    toIdentity (storedIdentity binary u) = .uuid u := by
  unfold toIdentity storedIdentity
  cases binary
  · rw [if_neg (by decide), Value.identity?_string]
  · rw [if_pos rfl, Value.identity?_binary]

variable {t : ScalarType} {v : Value}

/-- The stored form of a canonical value stands for it. -/
theorem Canonical.deserialize_serialize (h : Canonical p t v) (typed : t ≠ .any)
    (valid : v ≠ .invalid) (plain : v.hasPlainYear = true) (binary : Bool) :
    t.deserialize (t.serialize binary v) = v := by
  cases h with
  | null => cases t <;> rfl
  | number finite =>
    unfold serialize
    simp only [Value.number?, finite, if_true, deserialize]
  | @date d whole =>
    unfold serialize deserialize
    exact dateOfText_toText (by simpa [Value.hasPlainYear] using plain) whole
  | identity u =>
    unfold serialize deserialize
    exact toIdentity_storedIdentity binary u
  -- What is invalid has no stored form.
  | noWhole => exact absurd rfl valid
  | noNumber => exact absurd rfl valid
  | noDate => exact absurd rfl valid
  | any v => exact absurd rfl typed
  | _ => rfl

/-- A canonical value that has not been stored stands for itself. -/
theorem Canonical.deserialize_eq (h : Canonical p t v) : t.deserialize v = v := by
  cases h with
  | null => cases t <;> rfl
  | _ => rfl

end ScalarType

end EntityStore
