import EntityStore.Proofs.Model
import EntityStore.Proofs.Pipeline.RoundTrip
import EntityStore.Proofs.Population

set_option autoImplicit false

/-! # Items have properties in canonical form

Every declared property of an item has a value that its type keeps. Defaults, writes of members and
records all go through coercion, so this holds of every item from the beginning
(`Item.isCanonical_create`) and stays so, whatever is done with it (`Item.kept_canonical`). -/

namespace EntityStore.Item

variable {σ W : Type} {keyBase : String} {m : Model σ W}

/-- The item is one of a model, and its properties are in canonical form. -/
structure IsCanonical (m : Model σ W) (i : Item σ W) : Prop where
  /-- The item has the model. -/
  model_eq : i.model = m
  /-- Every declared property has a value that its type keeps. -/
  properties : m.schema.properties.IsCanonical i.properties

theorem isCanonical_create (coherent : m.Coherent keyBase) (id : Option Uuid)
    (adapter : Option (Adapter W)) (policy : Option UnsavedPolicy) :
    IsCanonical m (create m id adapter policy) where
  model_eq := rfl
  properties := by
    unfold create
    rw [coherent.pipeline_eq]
    exact Section.isCanonical_coerce _ _ _

namespace IsCanonical

variable {i j : Item σ W}

theorem setProperty (h : IsCanonical m i) {name : String} {p : Property}
    (declared : m.schema.properties.get? name = some p) (v : Value) :
    IsCanonical m (i.setProperty name p v) where
  model_eq := by
    rw [setProperty_frame]
    exact h.model_eq
  properties := by
    unfold Item.setProperty
    dsimp only
    split
    · exact h.properties
    · refine h.properties.insert fun q hq => ?_
      obtain rfl : p = q := Option.some.inj (declared.symm.trans hq)
      exact ScalarType.canonical_coerce _ _ _ _

theorem setComputed (coherent : m.Coherent keyBase) (h : IsCanonical m i) (c : Computed)
    (v : Value) : IsCanonical m (i.setComputed c v) where
  model_eq := h.model_eq
  properties := by
    unfold Item.setComputed
    rw [h.model_eq, coherent.pipeline_eq]
    exact Section.isCanonical_coerce _ _ _

theorem assigned (coherent : m.Coherent keyBase) (h : IsCanonical m i) (step : i.Assigned j) :
    IsCanonical m j := by
  obtain ⟨name, p, v, member, rfl⟩ | ⟨name, c, v, -, rfl⟩ := step.cases
  · rw [h.model_eq] at member
    exact h.setProperty (coherent.property name p member) v
  · exact h.setComputed coherent c v

end IsCanonical

/-- Whatever is done with an item, its properties stay in canonical form. -/
theorem kept_canonical (coherent : m.Coherent keyBase) : Item.Kept (IsCanonical m) where
  rewritten h steps := steps.keeps (fun _ _ => IsCanonical.assigned coherent) h
  adopt record h := by
    refine ⟨h.model_eq, ?_⟩
    unfold adopt
    rw [h.model_eq, coherent.pipeline_eq]
    exact Section.isCanonical_deserialize _ record
  markSaved _ h := ⟨h.model_eq, h.properties⟩
  withOutcome _ h := ⟨h.model_eq, h.properties⟩

end EntityStore.Item
