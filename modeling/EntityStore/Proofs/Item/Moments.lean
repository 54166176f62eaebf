import EntityStore.Proofs.Population

set_option autoImplicit false

/-! # The moments of an item

What an item is like while an operation runs, code for events included, is not part of its result:
it tells how the item is left, not what it went through. A `Watched` operation also lists the
moments of the item, one for each change of it, as code writes members, or as the operation takes a
record over or remembers how loading ended.

The watched operations are the same operations: without the moments they run as the others do
(`Operation.run_watched`). -/

namespace EntityStore

variable {σ W α β : Type}

/-! ## Moments -/

/-- What made an item as it is at a moment. -/
inductive Cause
  /-- It was made. -/
  | made
  /-- A member was written. -/
  | written (name : String)
  /-- It adopted its record, or its record was written from it. -/
  | settled
  /-- How loading ended was remembered or forgotten. -/
  | concluded
deriving DecidableEq

/-- An item as it is at a moment, and what made it so. -/
structure Moment (σ W : Type) where
  item : Item σ W
  cause : Cause

/-! ## Moments of code -/

/-- The moments of an item while code runs that a script calls. -/
abbrev Callee.Moments (σ W : Type) :=
  (α : Type) → Script σ α → Item σ W → σ → List (Moment σ W)

namespace Item

/-- The moments of an item while a script runs on it. -/
def moments (callee : Callee σ W) (inner : Callee.Moments σ W) :
    Script σ α → Item σ W → σ → List (Moment σ W)
  | .done _, _, _ => []
  | .raise _, _, _ => []
  | .get name next, i, notes => moments callee inner (next (i.get name)) i notes
  | .set name v next, i, notes =>
    match i.set name v with
    | .ok i => ⟨i, .written name⟩ :: moments callee inner (next (.ok ())) i notes
    | .error e => moments callee inner (next (.error e)) i notes
  | .call name args next, i, notes =>
    match i.model.method name with
    | .ok code =>
      let (r, j, after) := callee Value (code args) i notes
      inner Value (code args) i notes ++ moments callee inner (next r) j after
    | .error e => moments callee inner (next (.error e)) i notes
  | .validate next, i, notes =>
    let (r, j, after) := callee (List Violation) i.model.validation i notes
    inner (List Violation) i.model.validation i notes ++ moments callee inner (next r) j after
  | .inspect next, i, notes => moments callee inner (next i.view) i notes
  | .toObject stored next, i, notes => moments callee inner (next (i.toObject stored)) i notes
  | .adapter next, i, notes =>
    moments callee inner (next ⟨i.model.adapter.name, i.model.adapter.binary⟩) i notes
  | .recall next, i, notes => moments callee inner (next notes) i notes
  | .record notes next, i, _ => moments callee inner next i notes

/-- The moments of an item while code runs that may call more at most `depth` deep. -/
def momentsWithin : Nat → Callee.Moments σ W
  | 0, _, _, _, _ => []
  | depth + 1, _, code, i, notes => moments (runWithin depth) (momentsWithin depth) code i notes

end Item

/-! ## Watched operations -/

/-- An operation on an item within a session, and the moments of the item while it runs. -/
structure Watched (σ W α : Type) where
  run : ItemRun σ W α
  moments : Item σ W → Session σ W → List (Moment σ W)

namespace Watched

/-- One operation after the other, the second one only where the first one did not fail. -/
instance : Monad (Watched σ W) where
  pure a := ⟨pure a, fun _ _ => []⟩
  bind x f :=
    ⟨x.run >>= fun a => (f a).run, fun i s => x.moments i s ++
      match x.run.run.run (i, s) with
      | (.ok a, j, t) => (f a).moments j t
      | (.error _, _, _) => []⟩

/-- An operation that does not change the item. -/
def quiet (x : ItemRun σ W α) : Watched σ W α := ⟨x, fun _ _ => []⟩

/-- An operation that changes the item once, in the end. -/
def change (cause : Cause) (x : ItemRun σ W α) : Watched σ W α :=
  ⟨x, fun i s => [⟨(x.run.run (i, s)).2.1, cause⟩]⟩

def perform (code : Script σ α) : Watched σ W α :=
  ⟨ItemRun.perform code, fun i s =>
    let depth := i.model.calls.depth
    i.moments (Item.runWithin depth) (Item.momentsWithin depth) code s.notes⟩

def attempt (x : Watched σ W α) : Watched σ W (Except ModelError α) :=
  ⟨ItemRun.attempt x.run, x.moments⟩

def fire (e : LifecycleEvent) : Watched σ W Unit := do
  quiet (ItemRun.note (.event e))
  match (← quiet ItemRun.item).model.hook? e with
  | some code => perform code
  | none => return ()

def validate : Watched σ W (List Violation) := do
  fire .beforeValidate
  quiet (ItemRun.note .check)
  let i ← quiet ItemRun.item
  let violations := i.model.pipeline.violations i.properties
  fire .afterValidate
  return violations

def loadRecord (id : Uuid) : Watched σ W Unit := do
  fire .beforeLoad
  let record ← quiet (ItemRun.readRecord id)
  change .settled (ItemRun.modifyItem (·.adopt record))
  fire .afterLoad

def load : Watched σ W Unit := do
  let i ← quiet ItemRun.item
  match i.outcome with
  | some (.ok ()) => return ()
  | some (.error e) => quiet (throw e)
  | none =>
    let id ← quiet ItemRun.identity
    if i.hasChanged then quiet (ItemRun.decideConflict "discarding changes of")
    let outcome ← attempt (loadRecord id)
    change .concluded (ItemRun.modifyItem (·.withOutcome (some outcome)))
    quiet (match outcome with
      | .ok () => return ()
      | .error e => throw e)

def reload : Watched σ W Unit := do
  change .concluded (ItemRun.modifyItem (·.withOutcome none))
  load

def save : Watched σ W Unit := do
  let i ← quiet ItemRun.item
  if i.id.isSome && !i.isLoaded && i.hasChanged then quiet (ItemRun.decideConflict "saving")
  let violations ← validate
  if !violations.isEmpty then quiet (throw (.validation violations))
  fire .beforeSave
  let isNew := (← quiet ItemRun.item).id.isNone
  if isNew then fire .beforeCreate
  let id ← quiet ItemRun.identityToSave
  quiet (ItemRun.writeRecord id)
  change .settled (ItemRun.becomeSaved id)
  if isNew then fire .afterCreate
  fire .afterSave

def remove : Watched σ W Unit := do
  let id ← quiet ItemRun.identity
  fire .beforeRemove
  quiet (ItemRun.purgeRecord id)
  quiet (ItemRun.note .unindex)
  change .concluded (modify fun (i, s) => (i.withOutcome none, s.removeFromIndices i.model id))
  fire .afterRemove

/-! ## They are the same operations -/

theorem run_bind (x : Watched σ W α) (f : α → Watched σ W β) :
    (x >>= f).run = x.run >>= fun a => (f a).run := rfl

theorem run_ite (c : Prop) [Decidable c] (x y : Watched σ W α) :
    (if c then x else y).run = if c then x.run else y.run := apply_ite run c x y

theorem run_fire (e : LifecycleEvent) : (fire e : Watched σ W Unit).run = ItemRun.fire e := by
  unfold fire ItemRun.fire
  rw [run_bind]
  congr 1
  funext _
  rw [run_bind]
  congr 1
  funext i
  cases i.model.hook? e <;> rfl

theorem run_validate : (validate : Watched σ W (List Violation)).run = ItemRun.validate := by
  unfold validate ItemRun.validate
  simp only [run_bind, run_fire]
  rfl

theorem run_loadRecord (id : Uuid) :
    (loadRecord id : Watched σ W Unit).run = ItemRun.loadRecord id := by
  unfold loadRecord ItemRun.loadRecord
  simp only [run_bind, run_fire]
  rfl

theorem run_load : (load : Watched σ W Unit).run = ItemRun.load := by
  unfold load ItemRun.load
  rw [run_bind]
  congr 1
  funext i
  rcases i.outcome with _ | _ | ⟨⟩
  · simp only [run_bind, run_ite]
    unfold attempt
    simp only [run_loadRecord]
    rfl
  · rfl
  · rfl

theorem run_reload : (reload : Watched σ W Unit).run = ItemRun.reload := by
  unfold reload ItemRun.reload
  rw [run_bind, run_load]
  rfl

theorem run_save : (save : Watched σ W Unit).run = ItemRun.save := by
  unfold save ItemRun.save
  simp only [run_bind, run_ite, run_fire, run_validate]
  rfl

theorem run_remove : (remove : Watched σ W Unit).run = ItemRun.remove := by
  unfold remove ItemRun.remove
  simp only [run_bind, run_fire]
  rfl

end Watched

/-- The operation, and what the item goes through. -/
def Operation.watched : Operation → Watched σ W Unit
  | .set name v => Watched.perform (.assign name v)
  | .call name args => do let _ ← Watched.perform (.invoke name args)
  | .validate => do let _ ← Watched.validate
  | .load => Watched.load
  | .reload => Watched.reload
  | .save => Watched.save
  | .remove => Watched.remove

/-- A watched operation runs as the operation does. -/
theorem Operation.run_watched (op : Operation) : (op.watched : Watched σ W Unit).run = op.run := by
  cases op with
  | set name v => rfl
  | call name args => rfl
  | validate =>
    unfold watched run
    rw [Watched.run_bind, Watched.run_validate]
    rfl
  | load => exact Watched.run_load
  | reload => exact Watched.run_reload
  | save => exact Watched.run_save
  | remove => exact Watched.run_remove

end EntityStore
