import EntityStore.Proofs.Schema.Names

set_option autoImplicit false

/-! # Properties and computed properties have different names

No name is that of a property and of a computed property at once, neither in the schema that a
draft declares nor in the one that it makes together with that of its base
(`Draft.apart_normalize`). -/

namespace EntityStore

variable {σ : Type}

namespace Schema

/-- No computed property has the name of a property. -/
def Apart (s : Schema σ) : Prop :=
  ∀ name, s.properties.contains name = true → s.computed.contains name = false

/-- A name that the base may give to properties only, it gives to no computed property. -/
theorem Apart.computed_of_kindOf? {base : Schema σ} (h : base.Apart) {name : String}
    (fits : base.kindOf? name = none ∨ base.kindOf? name = some .property) :
    base.computed.contains name = false := by
  cases hp : base.properties.contains name with
  | true => exact h name hp
  | false =>
    cases hc : base.computed.contains name with
    | false => rfl
    | true => exact absurd fits (by simp [kindOf?, hp, hc])

/-- A name that the base may give to computed properties only, it gives to no property. -/
theorem properties_of_kindOf? {base : Schema σ} {name : String}
    (fits : base.kindOf? name = none ∨ base.kindOf? name = some .computed) :
    base.properties.contains name = false := by
  cases hp : base.properties.contains name with
  | false => rfl
  | true => exact absurd fits (by simp [kindOf?, hp])

/-- Merging keeps properties and computed properties apart, if the schema that is merged over the
base fits it. -/
theorem Apart.merge {base own : Schema σ} (hb : base.Apart) (h : base.Fits own) :
    (base.merge own).Apart := by
  intro name hn
  simp only [Schema.merge, Section.contains_merge, Bool.or_eq_true, Bool.or_eq_false_iff] at hn ⊢
  rcases hn with declared | inherited
  · refine ⟨?_, hb.computed_of_kindOf? (h.inherited .property name declared)⟩
    rw [Bool.eq_false_iff]
    intro computed
    exact absurd (h.single .property .computed name declared computed) (by simp)
  · refine ⟨?_, hb name inherited⟩
    rw [Bool.eq_false_iff]
    intro computed
    have unknown := properties_of_kindOf? (h.inherited .computed name computed)
    exact absurd inherited (by simp [unknown])

end Schema

/-- Together with what its base has, a draft in normal form keeps the names apart. -/
theorem Draft.apart_normalize [Pattern.Reader] (d : Draft σ) (model : String) {base : Schema σ}
    (hb : base.Apart)
    (isDerived : Bool) : (base.merge (d.normalize model base isDerived).1).Apart :=
  hb.merge (d.fits_normalize model base isDerived)

end EntityStore
