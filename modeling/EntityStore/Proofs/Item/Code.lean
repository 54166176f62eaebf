import EntityStore.Item
import Mathlib.Logic.Relation

set_option autoImplicit false

/-! # What code does to an item

Code reaches an item through writes of its members only, however deep its methods call each other.
So what code makes of an item is the item after some writes (`Item.Rewritten`), and a property that
a write keeps is one that all code keeps. In particular code leaves everything but the properties
and the recorded changes as it is (`Rewritten.frame`).

The code for an event is code of the model (`Item.AfterEvents`). -/

namespace EntityStore.Item

variable {σ W : Type}

/-! ## Writes -/

/-- One item is the other one after a write of a member. -/
def Assigned (i j : Item σ W) : Prop := ∃ name v, i.set name v = .ok j

/-- One item is the other one after any number of writes of members. -/
def Rewritten : Item σ W → Item σ W → Prop := Relation.ReflTransGen Assigned

/-- The item with other properties and other recorded changes. -/
def withContent (i : Item σ W) (properties : Properties) (changes : Changes) : Item σ W :=
  { i with properties, changes }

/-- A write is one of a property or one of a computed property. -/
theorem Assigned.cases {i j : Item σ W} (h : i.Assigned j) :
    (∃ name p v, i.model.accessors.get? name = some (.property p) ∧ j = i.setProperty name p v) ∨
      ∃ name c v, i.model.accessors.get? name = some (.computed c) ∧ j = i.setComputed c v := by
  obtain ⟨name, v, h⟩ := h
  unfold set at h
  split at h
  · next p member => exact .inl ⟨name, p, v, member, (Except.ok.inj h).symm⟩
  · next c member => exact .inr ⟨name, c, v, member, (Except.ok.inj h).symm⟩
  · exact absurd h (by simp)
  · exact absurd h (by simp)
  · split at h <;> exact absurd h (by simp)

theorem setProperty_frame (i : Item σ W) (name : String) (p : Property) (v : Value) :
    i.setProperty name p v =
      i.withContent (i.setProperty name p v).properties (i.setProperty name p v).changes := by
  simp only [setProperty]
  split <;> rfl

theorem Assigned.frame {i j : Item σ W} (h : i.Assigned j) :
    j = i.withContent j.properties j.changes := by
  obtain ⟨name, p, v, -, rfl⟩ | ⟨name, c, v, -, rfl⟩ := h.cases
  · exact setProperty_frame i name p v
  · rfl

namespace Rewritten

theorem frame {i j : Item σ W} (h : i.Rewritten j) :
    j = i.withContent j.properties j.changes := by
  induction h with
  | refl => rfl
  | tail _ last ih =>
    rw [last.frame, ih]
    rfl

@[grind →]
theorem model_eq {i j : Item σ W} (h : i.Rewritten j) : j.model = i.model := by
  rw [h.frame]; rfl

@[grind →]
theorem id_eq {i j : Item σ W} (h : i.Rewritten j) : j.id = i.id := by
  rw [h.frame]; rfl

@[grind →]
theorem ownAdapter_eq {i j : Item σ W} (h : i.Rewritten j) : j.ownAdapter = i.ownAdapter := by
  rw [h.frame]; rfl

@[grind →]
theorem adapter_eq {i j : Item σ W} (h : i.Rewritten j) : j.adapter = i.adapter := by
  unfold adapter
  rw [h.ownAdapter_eq, h.model_eq]

/-- What a write keeps, any number of writes keep. -/
theorem keeps {P : Item σ W → Prop} (step : ∀ i j, P i → i.Assigned j → P j) {i j : Item σ W}
    (h : i.Rewritten j) (start : P i) : P j := by
  induction h with
  | refl => exact start
  | tail _ last ih => exact step _ _ ih last

end Rewritten

/-! ## Running code -/

/-- The code that a script calls reaches the item through writes only. -/
def Callee.Rewrites (callee : Callee σ W) : Prop :=
  ∀ (α : Type) (code : Script σ α) (i : Item σ W) notes, i.Rewritten (callee α code i notes).2.1

theorem rewritten_run {α : Type} {callee : Callee σ W} (hc : callee.Rewrites) (code : Script σ α)
    (i : Item σ W) (notes : σ) : i.Rewritten (run callee code i notes).2.1 := by
  induction code generalizing i notes with
  | done a => exact .refl
  | raise e => exact .refl
  | get name next ih => exact ih _ i notes
  | set name v next ih =>
    unfold run
    split
    · next j h => exact .head ⟨name, v, h⟩ (ih _ j notes)
    · exact ih _ i notes
  -- What a method does, and the code for the events around a check, is up to the callee.
  | call name args next ih =>
    unfold run
    split
    · next code _ => exact (hc Value (code args) i notes).trans (ih _ _ _)
    · exact ih _ i notes
  | validate next ih => exact (hc _ i.model.validation i notes).trans (ih _ _ _)
  | inspect next ih => exact ih _ i notes
  | toObject stored next ih => exact ih _ i notes
  | adapter next ih => exact ih _ i notes
  | «recall» next ih => exact ih _ i notes
  | record new next ih => exact ih i new

theorem rewrites_runWithin (depth : Nat) : (runWithin depth : Callee σ W).Rewrites := by
  induction depth with
  | zero =>
    intro α code i notes
    exact .refl
  | succ depth ih =>
    intro α code i notes
    exact rewritten_run ih code i notes

/-- Whatever code runs on an item, the outcome is the item after some writes. -/
theorem rewritten_runScript {α : Type} (code : Script σ α) (i : Item σ W) (notes : σ) :
    i.Rewritten (i.runScript code notes).2.1 :=
  rewritten_run (rewrites_runWithin i.model.calls.depth) code i notes

/-- Of one script after another, the second one runs on what the first one left, unless that
failed. -/
theorem run_bind {α β : Type} (callee : Callee σ W) (code : Script σ α) (f : α → Script σ β)
    (i : Item σ W) (notes : σ) :
    run callee (code.bind f) i notes = match run callee code i notes with
      | (.ok a, j, after) => run callee (f a) j after
      | (.error e, j, after) => (.error e, j, after) := by
  induction code generalizing i notes with
  | done a => rfl
  | raise e => rfl
  | get name next ih => exact ih _ i notes
  | set name v next ih =>
    simp only [Script.bind, run]
    cases i.set name v with
    | ok j => exact ih _ j notes
    | error e => exact ih _ i notes
  | call name args next ih =>
    simp only [Script.bind, run]
    cases i.model.method name with
    | ok code => exact ih _ _ _
    | error e => exact ih _ i notes
  | validate next ih => exact ih _ _ _
  | inspect next ih => exact ih _ i notes
  | toObject stored next ih => exact ih _ i notes
  | adapter next ih => exact ih _ i notes
  | «recall» next ih => exact ih _ i notes
  | record new next ih => exact ih i new

theorem runScript_bind {α β : Type} (code : Script σ α) (f : α → Script σ β) (i : Item σ W)
    (notes : σ) : i.runScript (code.bind f) notes = match i.runScript code notes with
      | (.ok a, j, after) => j.runScript (f a) after
      | (.error e, j, after) => (.error e, j, after) := by
  have model := (rewritten_runScript code i notes).model_eq
  unfold runScript at model ⊢
  rw [run_bind]
  rcases ran : run (runWithin i.model.calls.depth) code i notes with ⟨_ | a, j, after⟩
  · rfl
  · rw [ran] at model
    dsimp only at model ⊢
    rw [model]

/-! ## Events -/

/-- One item is the other one after the code for an event has run on it. -/
def AfterEvent (i j : Item σ W) : Prop :=
  ∃ e code notes, i.model.hook? e = some code ∧ j = (i.runScript code notes).2.1

/-- One item is the other one after the code for any number of events has run on it. -/
def AfterEvents : Item σ W → Item σ W → Prop := Relation.ReflTransGen AfterEvent

theorem AfterEvents.trans {i j k : Item σ W} (h : i.AfterEvents j) (h' : j.AfterEvents k) :
    i.AfterEvents k := Relation.ReflTransGen.trans h h'

theorem AfterEvents.rewritten {i j : Item σ W} (h : i.AfterEvents j) : i.Rewritten j := by
  induction h with
  | refl => exact .refl
  | tail _ last ih =>
    obtain ⟨e, code, notes, -, rfl⟩ := last
    exact ih.trans (rewritten_runScript code _ notes)

@[grind →]
theorem AfterEvents.model_eq {i j : Item σ W} (h : i.AfterEvents j) : j.model = i.model :=
  h.rewritten.model_eq

end EntityStore.Item
