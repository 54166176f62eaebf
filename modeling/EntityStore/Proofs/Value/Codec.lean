import EntityStore.Proofs.Value.Record

set_option autoImplicit false

/-! # The two readers of values agree

What a document stands for is one relation, `Value.Describes`: a shape of document for each kind
of value that has one of its own. Both readers decide it, the one that tries the shapes in turn
(`Value.ofJson?_eq_some_iff`) and the one that makes a value of every document
(`Value.describes_iff_ofJson`), so they accept the same documents and give them the same values.

The document of a value describes what is left of it there (`Value.describes_toJson`): the value
itself, unless there is nothing of its kind in a document. -/

namespace EntityStore

namespace Value

variable {j : Json} {v : Value}

/-- What the documents of a value stand for. -/
inductive Describes : Json → Value → Prop
  | null : Describes .null .null
  | bool (b : Bool) : Describes (.bool b) (.bool b)
  /-- A whole number of 64 bits is itself. -/
  | integer (n : Int64) : Describes (.integer n.toInt) (.integer n)
  /-- A whole number that needs more bits is the number closest to it. -/
  | large {i : Int} (large : i < -2 ^ 63 ∨ 2 ^ 63 ≤ i) :
    Describes (.integer i) (.number (Binary64.ofInt i))
  | number (x : Binary64) : Describes (.number x) (.number x)
  | string (s : String) : Describes (.string s) (.string s)
  /-- Bytes are the sequence of their numbers. -/
  | binary (bytes : List UInt8) :
    Describes (.array (bytes.map fun b => .integer b.toNat)) (.binary bytes)

/-! ## Whole numbers and bytes -/

theorem ofInt?_eq_some_iff {i : Int} {n : Int64} : Whole.ofInt? i = some n ↔ i = n.toInt := by
  constructor
  · intro fits
    unfold Whole.ofInt? at fits
    split at fits
    · next range => rw [← Option.some.inj fits, Int64.toInt_ofInt_of_le range.1 range.2]
    · exact nomatch fits
  · rintro rfl
    exact ofInt?_toInt n

theorem ofInt?_eq_none_iff {i : Int} : Whole.ofInt? i = none ↔ i < -2 ^ 63 ∨ 2 ^ 63 ≤ i := by
  have range : (Whole.least ≤ i ∧ i < Whole.bound) ↔ ¬ (i < -2 ^ 63 ∨ 2 ^ 63 ≤ i) := by
    unfold Whole.least Whole.bound
    omega
  simp only [Whole.ofInt?, range, ite_not, ite_eq_left_iff, reduceCtorEq, imp_false, not_not]

theorem byte?_eq_some_iff {b : UInt8} : byte? j = some b ↔ j = .integer b.toNat := by
  constructor
  · intro fits
    unfold byte? at fits
    split at fits
    · next i =>
      split at fits
      · next range =>
        have small : i.toNat < 256 := by omega
        rw [← Option.some.inj fits, UInt8.toNat_ofNat', Nat.mod_eq_of_lt small,
          Int.toNat_of_nonneg range.1]
      · exact nomatch fits
    · exact nomatch fits
  · rintro rfl
    have high : (b.toNat : Int) < 256 := Int.ofNat_lt.2 b.toNat_lt
    rw [byte?, if_pos ⟨Int.natCast_nonneg _, high⟩, Int.toNat_natCast, UInt8.ofNat_toNat]

theorem mapM_byte?_eq_some_iff {items : List Json} {bytes : List UInt8} :
    items.mapM byte? = some bytes ↔ items = bytes.map fun b => .integer b.toNat := by
  induction items generalizing bytes with
  | nil => cases bytes <;> simp
  | cons item items ih =>
    simp only [List.mapM_cons, Option.bind_eq_bind, Option.bind_eq_some_iff, byte?_eq_some_iff, ih]
    cases bytes <;> simp

/-! ## The readers -/

theorem ofJson?_integer (i : Int) :
    ofJson? (.integer i) =
      some ((Whole.ofInt? i).elim (.number (Binary64.ofInt i)) .integer) := by
  simp only [ofJson?, shapes, List.findSome?_cons, asNull?, asBool?, asInteger?, asNumber?]
  cases Whole.ofInt? i <;> rfl

theorem ofJson?_array (items : List Json) :
    ofJson? (.array items) = (items.mapM byte?).map .binary := by
  simp only [ofJson?, shapes, List.findSome?_cons, asNull?, asBool?, asInteger?, asNumber?,
    asString?, asBinary?]
  cases items.mapM byte? <;> rfl

/-- The reader that tries the shapes in turn finds exactly what a document describes. -/
theorem ofJson?_eq_some_iff : ofJson? j = some v ↔ Describes j v := by
  constructor
  · intro found
    cases j with
    | null => cases found; exact .null
    | bool b => cases found; exact .bool b
    | number x => cases found; exact .number x
    | string s => cases found; exact .string s
    | object members => exact nomatch found
    | integer i =>
      rw [ofJson?_integer] at found
      cases fits : Whole.ofInt? i with
      | some n =>
        rw [fits] at found
        cases found
        obtain rfl := ofInt?_eq_some_iff.1 fits
        exact .integer n
      | none =>
        rw [fits] at found
        cases found
        exact .large (ofInt?_eq_none_iff.1 fits)
    | array items =>
      rw [ofJson?_array] at found
      obtain ⟨bytes, fits, rfl⟩ := Option.map_eq_some_iff.1 found
      rw [mapM_byte?_eq_some_iff.1 fits]
      exact .binary bytes
  · intro describes
    cases describes with
    | null | bool | number | string => rfl
    | integer n => rw [ofJson?_integer, ofInt?_toInt, Option.elim_some]
    | large large => rw [ofJson?_integer, ofInt?_eq_none_iff.2 large, Option.elim_none]
    | binary bytes =>
      rw [ofJson?_array, mapM_byte?_eq_some_iff.2 rfl, Option.map_some]

/-- Where the one reader finds nothing, the other has its mark, and else they find the same. -/
theorem ofJson_eq_getD (j : Json) : ofJson j = (ofJson? j).getD .invalid := by
  cases j with
  | null | bool | number | string | object => rfl
  | integer i =>
    rw [ofJson?_integer, Option.getD_some, ofJson]
    cases Whole.ofInt? i <;> rfl
  | array items =>
    rw [ofJson?_array, ofJson]
    cases items.mapM byte? <;> rfl

/-- No document describes the mark of what is not represented. -/
theorem Describes.ne_invalid (describes : Describes j v) : v ≠ .invalid := by
  cases describes <;> exact nofun

/-- The reader that makes a value of every document makes the one it describes, if there is one. -/
theorem describes_iff_ofJson : Describes j v ↔ ofJson j = v ∧ v ≠ .invalid := by
  rw [ofJson_eq_getD]
  constructor
  · intro describes
    rw [ofJson?_eq_some_iff.2 describes]
    exact ⟨rfl, describes.ne_invalid⟩
  · rintro ⟨rfl, represented⟩
    cases found : ofJson? j with
    | none => exact absurd (by rw [found]; rfl) represented
    | some v => exact ofJson?_eq_some_iff.1 found

/-! ## Names that occur twice

A name that an object has twice is no matter: an object describes no value. -/

theorem byte?_distinct (j : Json) : byte? j.distinct = byte? j := by
  cases j <;> simp [Json.distinct, byte?]

theorem mapM_byte?_distinctItems (items : List Json) :
    (Json.distinctItems items).mapM byte? = items.mapM byte? := by
  induction items with
  | nil => rw [Json.distinctItems]
  | cons item items ih =>
    rw [Json.distinctItems, List.mapM_cons, List.mapM_cons, byte?_distinct, ih]

theorem ofJson_distinct (j : Json) : ofJson j.distinct = ofJson j := by
  cases j with
  | array items => rw [Json.distinct, ofJson, mapM_byte?_distinctItems, ofJson]
  | object => simp only [Json.distinct, ofJson]
  | _ => simp only [Json.distinct]

/-! ## Texts -/

/-- A text holds the value that the document it holds describes. -/
theorem ofText_eq_ok_iff {text : String} :
    ofText text = .ok v ↔ ∃ j, Json.ofText? text = some j ∧ Describes j v := by
  unfold ofText read Json.Reader.document Json.Reader.ending Json.ofText?
  cases taken : Json.take Json.maxDepth (Json.skipSpace text.toList) with
  | none => simp [Json.Reader.orMalformed, bind, Except.bind]
  | some p =>
    obtain ⟨j, rest⟩ := p
    simp only [Json.Reader.orMalformed, bind, Except.bind, Option.bind_some, ← ofJson?_eq_some_iff]
    by_cases ended : (Json.skipSpace rest).isEmpty = true
    · cases found : ofJson? j <;> simp [ended, found, pure, Except.pure]
    · cases found : ofJson? j <;> simp [ended, pure, Except.pure]

/-- The two readers of a text find the same value: the one directly, and the one that first makes
a document of it and keeps each name once. -/
theorem ofText_eq_ok_iff_ofJson {text : String} :
    ofText text = .ok v ↔
      ∃ j, Json.ofTextDistinct? text = some j ∧ ofJson j = v ∧ v ≠ .invalid := by
  simp only [ofText_eq_ok_iff, describes_iff_ofJson, Json.ofTextDistinct?, Option.map_eq_some_iff]
  constructor
  · rintro ⟨j, held, describes⟩
    exact ⟨j.distinct, ⟨j, held, rfl⟩, by rwa [ofJson_distinct]⟩
  · rintro ⟨_, ⟨j, held, rfl⟩, describes⟩
    exact ⟨j, held, by rwa [ofJson_distinct] at describes⟩

/-! ## What is left of a value -/

/-- What is left of a value in its document: nothing of what is not represented and of what is no
finite number, and of dates and identifiers their texts. -/
def inDocument : Value → Value
  | .null | .invalid => .null
  | .bool b => .bool b
  | .integer i => .integer i
  | .number x => if x.isFinite then .number x else .null
  | .string s => .string s
  | .date t => .string t.toText
  | .uuid u => .string u.toText
  | .binary bytes => .binary bytes

/-- The document of a value describes what is left of the value. -/
theorem describes_toJson (v : Value) : Describes v.toJson v.inDocument := by
  cases v with
  | null | invalid => exact .null
  | bool b => exact .bool b
  | integer i => exact .integer i
  | string s => exact .string s
  | date t => exact .string t.toText
  | uuid u => exact .string u.toText
  | binary bytes => exact .binary bytes
  | number x =>
    by_cases finite : x.isFinite = true
    · rw [toJson, inDocument, if_pos finite, if_pos finite]
      exact .number x
    · rw [toJson, inDocument, if_neg finite, if_neg finite]
      exact .null

/-- **The readers of values agree**, on documents and on texts: the one that tries the shapes in
turn succeeds exactly on what the other does not mark as invalid, with the same value, and that is
the one the document describes. Both give of the document of a value what is left of the value. -/
theorem readers_agree :
    (∀ j v, ofJson? j = some v ↔ ofJson j = v ∧ v ≠ .invalid) ∧
    (∀ text v, ofText text = .ok v ↔
      ∃ j, Json.ofTextDistinct? text = some j ∧ ofJson j = v ∧ v ≠ .invalid) ∧
    (∀ j v, ofJson? j = some v ↔ Describes j v) ∧
    ∀ v : Value, ofJson? v.toJson = some v.inDocument ∧ ofJson v.toJson = v.inDocument := by
  refine ⟨fun j v => ?_, fun text v => ofText_eq_ok_iff_ofJson, fun j v => ofJson?_eq_some_iff,
    fun v => ?_⟩
  · exact ofJson?_eq_some_iff.trans describes_iff_ofJson
  · have describes := describes_toJson v
    exact ⟨ofJson?_eq_some_iff.2 describes, (describes_iff_ofJson.1 describes).1⟩

example : ofText "[0, 255]" = .ok (.binary [0, 255]) := by rfl

end Value

end EntityStore
