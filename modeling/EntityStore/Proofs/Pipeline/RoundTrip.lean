import EntityStore.Proofs.ScalarType.Canonical
import EntityStore.Proofs.Schema.Typed

set_option autoImplicit false

/-! # Properties survive being stored

The properties of an item in canonical form are restored from their stored form, in stores that take
bytes as they are and in others, and properties that were never stored are restored to themselves
(`Section.IsStorable.deserialize_serialize`, `Section.IsCanonical.deserialize_eq`). Since coercion
brings properties into canonical form, this holds of all that coercion gives
(`deserialize_serialize_coerce`). -/

namespace EntityStore

namespace Section

/-- Every declared property has a value that its type keeps. -/
def IsCanonical (sec : Section Property) (bag : Properties) : Prop :=
  ∀ name p, sec.get? name = some p → ∃ v, bag.get? name = some v ∧ p.type.Canonical p v

/-- No declared property is invalid, or a date outside of the years 0 to 9999. -/
def isStorable (sec : Section Property) (bag : Properties) : Bool :=
  sec.names.all fun name =>
    bag.get? name != some .invalid && ((bag.get? name).getD .null).hasPlainYear

/-- The part of a bag that is declared. -/
def restrict (sec : Section Property) (bag : Properties) : Properties :=
  bag.filter fun name _ => sec.contains name

/-- No declared property is a date outside of the years 0 to 9999. -/
def hasPlainYears (sec : Section Property) (bag : Properties) : Bool :=
  sec.names.all fun name => ((bag.get? name).getD .null).hasPlainYear

variable {sec : Section Property} {bag : Properties}

@[simp]
theorem get?_restrict (sec : Section Property) (bag : Properties) (name : String) :
    (sec.restrict bag).get? name = if sec.contains name then bag.get? name else none := by
  rw [restrict, Bag.get?_filter]
  cases bag.get? name <;> cases sec.contains name <;> rfl

theorem isCanonical_coerce (sec : Section Property) (defaults : DefaultSource) (raw : Properties) :
    sec.IsCanonical ((Pipeline.ofSection sec).coerce defaults raw) := by
  intro name p hp
  refine ⟨_, ?_, ScalarType.canonical_coerce p.type p (defaults name p)
    ((raw.get? name).getD .null)⟩
  rw [Pipeline.get?_coerce, hp]

theorem isCanonical_deserialize (sec : Section Property) (record : Record) :
    sec.IsCanonical ((Pipeline.ofSection sec).deserialize record) := by
  intro name p hp
  refine ⟨_, ?_, ScalarType.canonical_coerce p.type p none
    (p.type.deserialize ((record.get? name).getD .null))⟩
  rw [Pipeline.get?_deserialize, hp]
  rfl

theorem IsCanonical.insert (h : sec.IsCanonical bag) {name : String} {v : Value}
    (hv : ∀ p, sec.get? name = some p → p.type.Canonical p v) :
    sec.IsCanonical (bag.insert name v) := by
  intro other p hp
  rw [Bag.get?_insert]
  split
  · next eq =>
    subst eq
    exact ⟨v, rfl, hv p hp⟩
  · exact h other p hp

/-- Properties that meet their constraints are not invalid. -/
theorem isStorable_of_violations (typed : sec.Typed) (plain : sec.hasPlainYears bag = true)
    (valid : (Pipeline.ofSection sec).violations bag = []) : sec.isStorable bag = true := by
  refine List.all_eq_true.2 fun name hn => ?_
  obtain ⟨p, hp⟩ := mem_names.1 hn
  rw [Bool.and_eq_true, bne_iff_ne]
  refine ⟨fun invalid => ?_, List.all_eq_true.1 plain name hn⟩
  -- An invalid value violates the kind of its type.
  have met := Pipeline.violations_eq_nil valid hp
  rw [invalid, Option.getD_some, ScalarType.violations_invalid (typed name p hp)] at met
  exact absurd met (by simp)

/-- Properties in canonical form that were never stored are restored to themselves. -/
theorem IsCanonical.deserialize_eq (h : sec.IsCanonical bag) :
    (Pipeline.ofSection sec).deserialize bag = sec.restrict bag := by
  refine Bag.ext_get? fun name => ?_
  rw [Pipeline.get?_deserialize, get?_restrict, contains]
  cases hp : sec.get? name with
  | none => rfl
  | some p =>
    obtain ⟨v, hv, canonical⟩ := h name p hp
    rw [hv, Option.map_some, Option.getD_some, canonical.deserialize_eq, canonical.coerce_eq]
    rfl

/-- Properties in canonical form are restored from their stored form. -/
theorem IsCanonical.deserialize_serialize (h : sec.IsCanonical bag) (typed : sec.Typed)
    (storable : sec.isStorable bag = true) (binary : Bool) :
    (Pipeline.ofSection sec).deserialize ((Pipeline.ofSection sec).serialize binary bag) =
      sec.restrict bag := by
  refine Bag.ext_get? fun name => ?_
  rw [Pipeline.get?_deserialize, Pipeline.get?_serialize, get?_restrict, contains]
  cases hp : sec.get? name with
  | none => rfl
  | some p =>
    obtain ⟨v, hv, canonical⟩ := h name p hp
    have kept := List.all_eq_true.1 storable name (Section.mem_names.2 ⟨p, hp⟩)
    rw [hv, Bool.and_eq_true, bne_iff_ne, Option.getD_some] at kept
    have valid : v ≠ .invalid := fun eq => kept.1 (congrArg some eq)
    rw [hv, Option.map_some, Option.map_some, Option.getD_some, Option.getD_some,
      canonical.deserialize_serialize (typed name p hp) valid kept.2, canonical.coerce_eq]
    rfl

end Section

/-- Properties that were brought into form, with any defaults, by the normal form of a draft are
restored from their stored form, in both kinds of stores, and from themselves, unless one is invalid
or a date outside of the years 0 to 9999. What is not declared is left out. -/
theorem deserialize_serialize_coerce {σ : Type} (d : Draft σ) (model : String) (base : Schema σ)
    (isDerived : Bool) (defaults : DefaultSource) (raw : Properties) (binary : Bool) :
    let sec := (d.normalize model base isDerived).1.properties
    let p := Pipeline.ofSection sec
    let bag := p.coerce defaults raw
    (∀ name ∈ sec.names, bag.get? name ≠ some .invalid) →
    (∀ name ∈ sec.names, ((bag.get? name).getD .null).hasPlainYear = true) →
    p.deserialize (p.serialize binary bag) = sec.restrict bag ∧
      p.deserialize bag = sec.restrict bag := by
  intro sec p bag valid plain
  have canonical : sec.IsCanonical bag := Section.isCanonical_coerce sec defaults raw
  have storable : sec.isStorable bag = true := by
    refine List.all_eq_true.2 fun name hn => ?_
    rw [Bool.and_eq_true, bne_iff_ne]
    exact ⟨valid name hn, plain name hn⟩
  exact ⟨canonical.deserialize_serialize (d.typed_normalize model base isDerived) storable binary,
    canonical.deserialize_eq⟩

/-- An order, with a property of each type. -/
def orderDraft : Draft Unit :=
  { properties :=
      [("code", { trim := true, upperCase := true }), ("count", { typeName := "integer" }),
       ("price", { typeName := "number" }), ("paid", { typeName := "boolean" }),
       ("placed", { typeName := "date" }), ("customer", { typeName := "uuid" })] }

/-- An order as it is typed in. -/
def typedOrder : Properties :=
  .ofList
    [("code", .string " straße 1 "), ("count", .string "12"), ("price", .integer 3),
     ("paid", .string "yes"), ("placed", .string "2024-03-01T10:20:30.5+01:00"),
     ("customer", .string "6BA7B810-9DAD-11D1-80B4-00C04FD430C8"), ("note", .bool true)]

theorem deserialize_serialize_order :
    let sec := (orderDraft.normalize "Order" {} false).1.properties
    let p := Pipeline.ofSection sec
    let bag := p.coerce declaredDefaults typedOrder
    (∀ name ∈ sec.names, bag.get? name ≠ some .invalid) ∧
    (∀ name ∈ sec.names, ((bag.get? name).getD .null).hasPlainYear = true) ∧
    bag.get? "code" = some (.string "STRASSE 1") ∧
    p.deserialize (p.serialize false bag) = sec.restrict bag ∧
      p.deserialize bag = sec.restrict bag := by
  intro sec p bag
  have valid : ∀ name ∈ sec.names, bag.get? name ≠ some .invalid := by decide +kernel
  have plain : ∀ name ∈ sec.names, ((bag.get? name).getD .null).hasPlainYear = true := by
    decide +kernel
  exact ⟨valid, plain, by decide +kernel, deserialize_serialize_coerce orderDraft "Order" {} false
    declaredDefaults typedOrder false valid plain⟩

end EntityStore
