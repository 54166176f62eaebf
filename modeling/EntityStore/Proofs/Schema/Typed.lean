import EntityStore.Model
import EntityStore.Proofs.Pipeline

set_option autoImplicit false

/-! # Properties of normal schemas have types

Every property that a draft declares in normal form has one of the types with names
(`Draft.typed_normalize`), and so has every property of a schema that is put together from such. -/

namespace EntityStore

/-- Every property has a type with a name. -/
def Section.Typed (s : Section Property) : Prop := ∀ name p, s.get? name = some p → p.type ≠ .any

namespace Section.Typed

theorem empty : (Section.empty : Section Property).Typed := fun _ _ h => absurd h (by simp)

theorem insert {s : Section Property} (h : s.Typed) (name : String) {p : Property}
    (hp : p.type ≠ .any) : (s.insert name p).Typed := by
  intro other q hq
  rw [Section.get?_insert] at hq
  split at hq
  · exact Option.some.inj hq ▸ hp
  · exact h other q hq

theorem merge {base own : Section Property} (hb : base.Typed) (ho : own.Typed) :
    (base.merge own).Typed := by
  intro name p hp
  rw [Section.get?_merge] at hp
  cases h : own.get? name with
  | some q => exact ho name p (by simpa [h] using hp)
  | none => exact hb name p (by simpa [h] using hp)

end Section.Typed

/-! ## Properties in normal form -/

theorem ScalarType.checkDefinition_typeName [Pattern.Reader] (t : ScalarType) (p : Property) :
    (t.checkDefinition p).1.typeName = p.typeName := by
  cases t <;> rfl

theorem ScalarType.mem_all_of_ofName? {name : String} {t : ScalarType} (h : ofName? name = some t) :
    t ∈ all := by
  unfold ofName? at h
  exact List.mem_of_find?_eq_some h

theorem normalProperty_type [Pattern.Reader] {name : String} {p q : Property}
    (h : (normalProperty name p).1 = some q) : q.type ≠ .any := by
  unfold normalProperty at h
  split at h
  · exact absurd h (by simp)
  · next t found =>
    have known : t ∈ ScalarType.all := ScalarType.mem_all_of_ofName? found
    -- The type was found by its name, which the normal form keeps.
    have typeName : q.typeName = t.name := by
      rw [← Option.some.inj h]
      exact ScalarType.checkDefinition_typeName t _
    rw [Property.type, typeName, ScalarType.ofName?_name known, Option.getD_some]
    rintro rfl
    exact absurd known (by decide)

/-! ## Drafts -/

namespace Normalizing

variable {σ : Type} (base : Schema σ) {n : Normalizing σ}

/-- The properties so far have types. -/
def Typed (n : Normalizing σ) : Prop := n.schema.properties.Typed

theorem typed_takeName (h : n.Typed) (kind : MemberKind) (name : String)
    {declare : Normalizing σ → Normalizing σ}
    (hd : ∀ n : Normalizing σ, n.Typed → (declare n).Typed) :
    (n.takeName base kind name declare).Typed := by
  unfold takeName
  dsimp only
  split
  · exact h
  · exact hd _ h

theorem typed_addProperty [Pattern.Reader] (h : n.Typed) (e : String × Property) :
    (addProperty base n e).Typed := by
  unfold addProperty
  dsimp only
  split
  · exact h
  · next p normal =>
    refine typed_takeName base (n := n.report _) h _ _ fun m hm => ?_
    exact Section.Typed.insert hm e.1 (normalProperty_type normal)

theorem typed_addComputed (h : n.Typed) (e : String × ComputedDraft) :
    (addComputed base n e).Typed := typed_takeName base (n := n.report _) h _ _ fun _ hm => hm

theorem typed_addMethod (h : n.Typed) (e : String × Option (Method σ)) :
    (addMethod base n e).Typed := by
  refine typed_takeName base h _ _ fun m hm => ?_
  split <;> exact hm

theorem typed_addHook (h : n.Typed) (e : String × Option (Hook σ)) : (addHook n e).Typed := by
  unfold addHook
  split <;> exact h

theorem typed_addOption (h : n.Typed) (e : String × Json) : (addOption n e).Typed := by
  unfold addOption
  dsimp only
  split
  · split
    · exact h
    · split <;> exact h
    · exact h
  · exact h

end Normalizing

theorem foldl_keeps {α β : Type} {P : β → Prop} {f : β → α → β} (step : ∀ b a, P b → P (f b a))
    (l : List α) {b : β} (h : P b) : P (l.foldl f b) := by
  induction l generalizing b with
  | nil => exact h
  | cons a l ih => exact ih (step b a h)

/-- The properties of a draft in normal form have types. -/
theorem Draft.typed_normalize [Pattern.Reader] {σ : Type} (d : Draft σ) (model : String)
    (base : Schema σ)
    (isDerived : Bool) : (d.normalize model base isDerived).1.properties.Typed := by
  unfold Draft.normalize
  dsimp only
  -- One section after the other, the last one first.
  refine foldl_keeps (P := Normalizing.Typed) (fun _ e h => Normalizing.typed_addOption h e)
    d.options ?_
  refine foldl_keeps (P := Normalizing.Typed) (fun _ e h => Normalizing.typed_addHook h e)
    d.hooks ?_
  refine foldl_keeps (P := Normalizing.Typed) (fun _ e h => Normalizing.typed_addMethod base h e)
    d.methods ?_
  refine foldl_keeps (P := Normalizing.Typed) (fun _ e h => Normalizing.typed_addComputed base h e)
    d.computed ?_
  refine foldl_keeps (P := Normalizing.Typed) (fun _ e h => Normalizing.typed_addProperty base h e)
    d.properties ?_
  exact Section.Typed.empty

end EntityStore
