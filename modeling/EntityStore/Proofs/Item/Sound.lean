import EntityStore.Proofs.Item.Canonical
import EntityStore.Proofs.Item.Changes
import EntityStore.Proofs.Item.Path
import EntityStore.Proofs.Members

set_option autoImplicit false

/-! # Items are sound at every moment

An item is sound (`Item.Sound`) when it is made, and each step to its next moment keeps it so,
whether a member is written, a record taken over, or an outcome remembered. So it is sound at every
moment, also while code for an event runs and after operations that failed, and an identity to which
it is bound stays the same (`Item.sound_at_all_moments`). -/

namespace EntityStore

variable {σ W : Type} {keyBase : String} {m : Model σ W}

namespace Item

/-! ## Soundness -/

/-- What holds of an item of a model at every moment. -/
structure Sound (m : Model σ W) (i : Item σ W) : Prop where
  /-- Every declared property has a value, which its type keeps as it is. -/
  fixed : ∀ name p, m.schema.properties.get? name = some p →
    ∃ v, i.properties.get? name = some v ∧ p.type.coerce p none v = v
  /-- The item tells that it has changed if and only if some property has. -/
  hasChanged_iff : i.hasChanged = true ↔ i.changed.names ≠ []
  /-- What has changed are declared properties. -/
  declared : ∀ name ∈ i.changed.names, name ∈ m.schema.properties.names
  /-- An item that is loaded is bound to an identity. -/
  bound : i.isLoaded = true → i.id.isSome = true

/-- Only properties that the model declares are recorded as changed. -/
def ChangesDeclared (m : Model σ W) (i : Item σ W) : Prop :=
  i.model = m ∧ ∀ name ∈ i.changed.names, name ∈ m.schema.properties.names

/-- Only an item that is bound counts as loaded. -/
def BoundIfLoaded (i : Item σ W) : Prop := i.isLoaded = true → i.id.isSome = true

theorem IsCanonical.coerce_eq {i : Item σ W} (h : i.IsCanonical m) {name : String} {p : Property}
    (declared : m.schema.properties.get? name = some p) :
    ∃ v, i.properties.get? name = some v ∧ p.type.coerce p none v = v := by
  obtain ⟨v, found, canonical⟩ := h.properties name p declared
  exact ⟨v, found, canonical.coerce_eq⟩

/-! ## Steps -/

theorem kept_changesDeclared (coherent : m.Coherent keyBase) : Item.Kept (ChangesDeclared m) where
  rewritten h steps := by
    refine steps.keeps (P := ChangesDeclared m) ?_ h
    rintro i j ⟨rfl, before⟩ ⟨member, v, set⟩
    refine ⟨Rewritten.model_eq (.single ⟨member, v, set⟩), ?_⟩
    intro name changed
    rcases (mem_changed_of_set coherent set name).1 changed with recorded | ⟨declared, -⟩
    · exact before name recorded
    · exact declared
  adopt record h := ⟨h.1, fun _ recorded => absurd recorded List.not_mem_nil⟩
  markSaved s h := ⟨h.1, fun _ recorded => absurd recorded List.not_mem_nil⟩
  withOutcome outcome h := h

theorem Next.boundIfLoaded {i : Item σ W} {now : Moment σ W} (h : i.Next now)
    (before : i.BoundIfLoaded) : now.item.BoundIfLoaded := by
  cases h with
  | @written j name v set =>
    -- A write leaves the identity and the outcome alone.
    have frame := Assigned.frame ⟨name, v, set⟩
    intro loaded
    rw [frame] at loaded ⊢
    exact before loaded
  | adopted record => exact before
  | saved s => exact fun _ => rfl
  | concluded outcome bound =>
    intro loaded
    refine bound ?_
    unfold isLoaded withOutcome at loaded
    split at loaded
    · next told => exact told
    · simp at loaded

/-- What makes an item sound, in the form in which each step keeps it. -/
structure Steady (m : Model σ W) (i : Item σ W) : Prop where
  /-- The properties are in canonical form. -/
  canonical : i.IsCanonical m
  /-- It is recorded whether the item has changed. -/
  honest : i.changes.IsHonest
  /-- Only declared properties are recorded. -/
  declared : i.ChangesDeclared m
  /-- Only an item that is bound counts as loaded. -/
  bound : i.BoundIfLoaded

theorem Steady.sound {i : Item σ W} (h : i.Steady m) : i.Sound m where
  fixed _ _ declared := h.canonical.coerce_eq declared
  hasChanged_iff := h.honest
  declared := h.declared.2
  bound := h.bound

theorem steady_create (coherent : m.Coherent keyBase) (id : Option Uuid)
    (adapter : Option (Adapter W)) (policy : Option UnsavedPolicy) :
    (create m id adapter policy).Steady m where
  canonical := isCanonical_create coherent id adapter policy
  honest := Changes.isHonest_empty
  declared := ⟨rfl, fun _ recorded => absurd recorded List.not_mem_nil⟩
  bound loaded := absurd loaded (by simp [create, isLoaded])

theorem Steady.next (coherent : m.Coherent keyBase) {i : Item σ W} {now : Moment σ W}
    (h : i.Steady m) (next : i.Next now) : now.item.Steady m where
  canonical := next.keeps (kept_canonical coherent) h.canonical
  honest := next.keeps kept_isHonest h.honest
  declared := next.keeps (kept_changesDeclared coherent) h.declared
  bound := next.boundIfLoaded h.bound

/-! ## All moments -/

/-- An item of any model, made with or without an identity, on which any operations are carried out,
each within any session, whether they fail or not. Its moments lead step by step to the item that
the operations leave; those that the code for an event or a method brings about are among them. The
item is sound at every moment, and at each it is bound to the identity to which it was bound at an
earlier one. -/
theorem sound_at_all_moments (compiled : m.Compiled keyBase) (id : Option Uuid)
    (adapter : Option (Adapter W)) (policy : Option UnsavedPolicy)
    (ops : List (Operation × Session σ W)) :
    let i := create m id adapter policy
    Path i (i.goesThrough ops) (i.after ops) ∧
      (∀ now ∈ i.life ops, now.item.Sound m) ∧
      (i.life ops).Pairwise fun before now =>
        ∀ id, before.item.id = some id → now.item.id = some id := by
  intro i
  have path := i.path_goesThrough ops
  have made : i.Steady m := steady_create compiled.coherent id adapter policy
  refine ⟨path, ?_, List.pairwise_cons.2 ⟨?_, path.pairwise_id⟩⟩
  · intro now member
    refine Steady.sound ?_
    rcases List.mem_cons.1 member with rfl | member
    · exact made
    · have steady := path.keeps (fun _ _ before next => before.next compiled.coherent next) made
      exact steady.1 now member
  · intro now member u bound
    exact (path.keeps_id bound).1 now member

end Item

/-! The title of a badge is written, and the badge saved; the code that runs before that writes the
title once more. -/

/-- A session in which no badge is stored. -/
def badgeSession : Session Unit Memory := { store := {}, notes := (), identities := .ofNat }

/-- A title is written, and the badge saved. -/
def badgeOperations : List (Operation × Session Unit Memory) :=
  [(.set "title" (.string "visitor"), badgeSession), (.save, badgeSession)]

/-- A new badge. -/
def newBadge : Item Unit Memory := .create badgeModel none none none

theorem sound_at_all_moments_badge :
    badgeModel.Compiled "models" ∧
      (newBadge.life badgeOperations).map (·.cause) =
        [.made, .written "title", .written "title", .settled] ∧
      ∀ now ∈ newBadge.life badgeOperations, now.item.Sound badgeModel :=
  ⟨badgeModel_compiled, by decide +kernel,
    (Item.sound_at_all_moments badgeModel_compiled none none none badgeOperations).2.1⟩

end EntityStore
