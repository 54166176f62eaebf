import EntityStore.Proofs.Item.Moments

set_option autoImplicit false

/-! # Paths through the moments of an item

The moments of an item follow from each other in few ways (`Item.Next`), and those of an operation
are a path from the item before it to the item after it (`Operation.path`). So what a single step
keeps holds at every moment of an item, from the time when it was made
(`Item.path_goesThrough`), and between the operations on it anything may happen in the session. -/

namespace EntityStore

variable {σ W α β : Type}

/-! ## Steps and paths -/

/-- An item becomes what it is at the next moment. -/
inductive Item.Next : Item σ W → Moment σ W → Prop
  /-- A member is written. -/
  | written {i j : Item σ W} {name : String} (v : Value) (set : i.set name v = .ok j) :
      Next i ⟨j, .written name⟩
  /-- The item adopts a record. -/
  | adopted {i : Item σ W} (record : Record) : Next i ⟨i.adopt record, .settled⟩
  /-- The record of the item has been written, within some session. -/
  | saved {i : Item σ W} (s : Session σ W) : Next i ⟨i.markSaved (i.identityIn s).1, .settled⟩
  /-- An outcome of loading is remembered or forgotten; only an item that is bound is loaded. -/
  | concluded {i : Item σ W} (outcome : Option (Except ModelError Unit))
      (bound : outcome = some (.ok ()) → i.id.isSome = true) :
      Next i ⟨i.withOutcome outcome, .concluded⟩

/-- What operations keep of an item, each step keeps. -/
theorem Item.Next.keeps {P : Item σ W → Prop} (kept : Item.Kept P) {i : Item σ W}
    {now : Moment σ W} (h : i.Next now) (hi : P i) : P now.item := by
  cases h with
  | written v set => exact kept.rewritten hi (.single ⟨_, v, set⟩)
  | adopted record => exact kept.adopt record hi
  | saved s => exact kept.markSaved s hi
  | concluded outcome bound => exact kept.withOutcome outcome hi

/-- One moment follows from the other, from an item to another one. -/
inductive Path : Item σ W → List (Moment σ W) → Item σ W → Prop
  | nil (i : Item σ W) : Path i [] i
  | cons {i j : Item σ W} {now : Moment σ W} {rest : List (Moment σ W)} (next : i.Next now)
      (path : Path now.item rest j) : Path i (now :: rest) j

namespace Path

variable {i j k : Item σ W} {l l' : List (Moment σ W)}

theorem append (h : Path i l j) (h' : Path j l' k) : Path i (l ++ l') k := by
  induction h with
  | nil i => exact h'
  | cons next path ih => exact .cons next (ih h')

/-- What each step keeps holds at all moments, if it holds before them. -/
theorem keeps {P : Item σ W → Prop} (step : ∀ i now, P i → i.Next now → P now.item)
    (h : Path i l j) (hi : P i) : (∀ now ∈ l, P now.item) ∧ P j := by
  induction h with
  | nil i => exact ⟨by simp, hi⟩
  | cons next path ih =>
    have here := step _ _ hi next
    obtain ⟨there, final⟩ := ih here
    exact ⟨List.forall_mem_cons.2 ⟨here, there⟩, final⟩

/-- At all moments an item is bound to the identity to which it is bound before them. -/
theorem keeps_id (h : Path i l j) {id : Uuid} (bound : i.id = some id) :
    (∀ now ∈ l, now.item.id = some id) ∧ j.id = some id :=
  h.keeps (P := fun i => i.id = some id)
    (fun _ _ before next => next.keeps (Item.kept_id id) before) bound

/-- Of two moments the later one is bound to the identity to which the earlier one is bound. -/
theorem pairwise_id (h : Path i l j) : l.Pairwise fun before now =>
    ∀ id, before.item.id = some id → now.item.id = some id := by
  induction h with
  | nil i => exact .nil
  | cons next path ih =>
    refine List.pairwise_cons.2 ⟨?_, ih⟩
    intro later member id bound
    exact (path.keeps_id bound).1 later member

end Path

/-! ## Code -/

namespace Item

/-- The moments of code that a script calls are a path to the item that the code leaves. -/
def Callee.Paths (callee : Callee σ W) (inner : Callee.Moments σ W) : Prop :=
  ∀ (α : Type) (code : Script σ α) (i : Item σ W) notes,
    Path i (inner α code i notes) (callee α code i notes).2.1

theorem path_moments_of_callee {callee : Callee σ W} {inner : Callee.Moments σ W}
    (paths : Callee.Paths callee inner) (code : Script σ α) (i : Item σ W) (notes : σ) :
    Path i (moments callee inner code i notes) (run callee code i notes).2.1 := by
  induction code generalizing i notes with
  | done a => exact .nil i
  | raise e => exact .nil i
  | get name next ih => exact ih _ i notes
  | set name v next ih =>
    cases set : i.set name v with
    | ok j =>
      simp only [moments, run, set]
      exact .cons (.written v set) (ih _ j notes)
    | error e =>
      simp only [moments, run, set]
      exact ih _ i notes
  -- The moments of the code that is called come first.
  | call name args next ih =>
    cases method : i.model.method name with
    | ok code =>
      simp only [moments, run, method]
      exact (paths Value (code args) i notes).append (ih _ _ _)
    | error e =>
      simp only [moments, run, method]
      exact ih _ i notes
  | validate next ih => exact (paths _ i.model.validation i notes).append (ih _ _ _)
  | inspect next ih => exact ih _ i notes
  | toObject stored next ih => exact ih _ i notes
  | adapter next ih => exact ih _ i notes
  | «recall» next ih => exact ih _ i notes
  | record new next ih => exact ih i new

theorem paths_momentsWithin (depth : Nat) :
    Callee.Paths (runWithin depth : Callee σ W) (momentsWithin depth) := by
  induction depth with
  | zero =>
    intro α code i notes
    exact .nil i
  | succ depth ih =>
    intro α code i notes
    exact path_moments_of_callee ih code i notes

end Item

/-! ## Operations -/

namespace Watched

open ItemRun

/-- The moments of the operation are a path to the item that it leaves, and if it gives a result,
that passes a test together with this item. -/
def Passes (x : Watched σ W α) (Q : α → Item σ W → Prop) (i : Item σ W) (s : Session σ W) : Prop :=
  x.run.Ends (fun r j _ => Path i (x.moments i s) j ∧ ∀ a, r = .ok a → Q a j) i s

variable {i : Item σ W} {s : Session σ W} {P Q : α → Item σ W → Prop}

theorem passes_mono {x : Watched σ W α} (hx : x.Passes P i s) (h : ∀ a j, P a j → Q a j) :
    x.Passes Q i s := ends_mono hx fun _ j _ pass => ⟨pass.1, fun a eq => h a j (pass.2 a eq)⟩

theorem passes_bind {x : Watched σ W α} {f : α → Watched σ W β} {Q : β → Item σ W → Prop}
    (hx : x.Passes P i s) (next : ∀ a j t, P a j → (f a).Passes Q j t) :
    (x >>= f).Passes Q i s := by
  unfold Passes Ends at hx ⊢
  rw [run_bind, ItemRun.run_bind]
  rcases hr : x.run.run.run (i, s) with ⟨e | a, j, t⟩
  · have moments_bind : (x >>= f).moments i s = x.moments i s ++ [] := by
      show x.moments i s ++ _ = _
      rw [hr]
    rw [hr] at hx
    rw [moments_bind]
    exact ⟨by simpa using hx.1, fun _ failed => absurd failed (by simp)⟩
  · have moments_bind : (x >>= f).moments i s = x.moments i s ++ (f a).moments j t := by
      show x.moments i s ++ _ = _
      rw [hr]
    rw [hr] at hx
    rw [moments_bind]
    obtain ⟨path, result⟩ := next a j t (hx.2 a rfl)
    exact ⟨hx.1.append path, result⟩

theorem passes_pure {a : α} (h : Q a i) : (pure a : Watched σ W α).Passes Q i s := by
  refine ⟨.nil i, ?_⟩
  rintro b ⟨⟩
  exact h

theorem passes_quiet {x : ItemRun σ W α}
    (h : x.Ends (fun r j _ => j = i ∧ ∀ a, r = .ok a → Q a i) i s) : (quiet x).Passes Q i s := by
  refine ends_mono h ?_
  rintro r _ t ⟨rfl, result⟩
  exact ⟨.nil _, result⟩

/-- An operation of whose result nothing is used, and then another one. -/
theorem passes_then {x : Watched σ W α} {f : α → Watched σ W β} {Q : β → Item σ W → Prop}
    (hx : x.Passes P i s) (next : ∀ a j t, (f a).Passes Q j t) : (x >>= f).Passes Q i s :=
  passes_bind hx fun a j t _ => next a j t

/-- A change of the item, and then an operation on what it has become. -/
theorem passes_change_bind {cause : Cause} {x : ItemRun σ W α} {f : α → Watched σ W β}
    {Q : β → Item σ W → Prop} (step : x.Ends (fun _ j _ => i.Next ⟨j, cause⟩) i s)
    (next : ∀ a j t, (f a).Passes Q j t) : (change cause x >>= f).Passes Q i s :=
  passes_then (P := fun _ _ => True) ⟨.cons step (.nil _), fun _ _ => trivial⟩ next

/-- An operation under a condition, and then another one. -/
theorem passes_when {c : Bool} {x : Watched σ W Unit} {f : Unit → Watched σ W β}
    {P : Item σ W → Prop} {Q : β → Item σ W → Prop} (hx : c = true → x.Passes (fun _ => P) i s)
    (skip : P i) (next : ∀ j t, P j → (f ()).Passes Q j t) :
    (if c = true then x >>= f else f ()).Passes Q i s := by
  split
  · next h => exact passes_bind (hx h) fun _ => next
  · exact next i s skip

/-! ### Steps that do not change the item -/

theorem passes_unchanged {x : ItemRun σ W α} (h : x.Ends (fun _ j _ => j = i) i s) :
    (quiet x).Passes (fun _ j => j = i) i s :=
  passes_quiet (ends_mono h fun _ _ _ unchanged => ⟨unchanged, fun _ _ => rfl⟩)

theorem passes_note (step : Step) : (quiet (note step)).Passes (fun _ j => j = i) i s :=
  passes_unchanged rfl

theorem passes_throw (e : ModelError) : (quiet (throw e) : Watched σ W α).Passes Q i s :=
  passes_quiet ⟨rfl, nofun⟩

theorem passes_item : (quiet item).Passes (fun a j => a = i ∧ j = i) i s := by
  refine passes_quiet ⟨rfl, ?_⟩
  rintro a ⟨⟩
  exact ⟨rfl, rfl⟩

theorem passes_identity : (quiet identity).Passes (fun id j => i.id = some id ∧ j = i) i s := by
  refine passes_quiet ?_
  rw [← bind_pure identity, ends_identity_bind]
  cases named : i.id with
  | none => exact ⟨rfl, nofun⟩
  | some id =>
    refine ⟨rfl, ?_⟩
    rintro a ⟨⟩
    exact ⟨rfl, rfl⟩

/-- The identity to save under is that of the item, if it has one. -/
theorem passes_identityToSave :
    (quiet identityToSave).Passes (fun id j => id = (i.identityIn s).1 ∧ j = i) i s := by
  refine passes_quiet ?_
  rw [← bind_pure identityToSave, ends_identityToSave_bind]
  refine ⟨rfl, ?_⟩
  rintro id ⟨⟩
  exact ⟨rfl, rfl⟩

theorem passes_decideConflict (action : String) :
    (quiet (decideConflict action)).Passes (fun _ j => j = i) i s :=
  passes_unchanged (ends_mono (ends_decideConflict action i s) fun _ _ _ h => h.1)

theorem passes_readRecord (id : Uuid) : (quiet (readRecord id)).Passes (fun _ j => j = i) i s := by
  refine passes_unchanged ?_
  rw [← bind_pure (readRecord id), ends_readRecord_bind]
  split <;> rfl

theorem passes_writeRecord (id : Uuid) :
    (quiet (writeRecord id)).Passes (fun _ j => j = i) i s := by
  refine passes_unchanged ?_
  rw [← bind_pure (writeRecord id), ends_writeRecord_bind]
  split <;> rfl

theorem passes_purgeRecord (id : Uuid) :
    (quiet (purgeRecord id)).Passes (fun _ j => j = i) i s := by
  refine passes_unchanged ?_
  rw [← bind_pure (purgeRecord id), ends_purgeRecord_bind]
  split <;> rfl

/-! ### Steps that change it -/

theorem passes_perform (code : Script σ α) : (perform code).Passes (fun _ _ => True) i s := by
  refine ends_mono (ends_perform code i s) ?_
  rintro r j t ⟨-, rfl, rfl⟩
  have paths := Item.paths_momentsWithin (σ := σ) (W := W) i.model.calls.depth
  exact ⟨Item.path_moments_of_callee paths code i s.notes, fun _ _ => trivial⟩

theorem passes_fire (e : LifecycleEvent) (i : Item σ W) (s : Session σ W) :
    (fire e).Passes (fun _ _ => True) i s := by
  unfold fire
  refine passes_then (passes_note _) ?_
  intro _ i s
  refine passes_then passes_item ?_
  intro k i s
  split
  · exact passes_perform _
  · exact passes_pure trivial

theorem passes_validate (i : Item σ W) (s : Session σ W) :
    validate.Passes (fun _ _ => True) i s := by
  refine passes_then (passes_fire .beforeValidate i s) ?_
  intro _ i s
  refine passes_then (passes_note _) ?_
  intro _ i s
  refine passes_then passes_item ?_
  intro k i s
  refine passes_then (passes_fire .afterValidate i s) ?_
  intro _ i s
  exact passes_pure trivial

theorem passes_loadRecord (id : Uuid) (i : Item σ W) (s : Session σ W) :
    (loadRecord id).Passes (fun _ _ => True) i s := by
  refine passes_then (passes_fire .beforeLoad i s) ?_
  intro _ i s
  refine passes_then (passes_readRecord id) ?_
  intro record i s
  refine passes_change_bind (.adopted record) ?_
  intro _ i s
  exact passes_fire .afterLoad i s

/-- An attempt has the moments of what is tried, and does not fail. -/
theorem passes_attempt {x : Watched σ W α} (hx : x.Passes (fun _ _ => True) i s) {id : Uuid}
    (bound : i.id = some id) : (attempt x).Passes (fun _ j => j.id = some id) i s :=
  ⟨hx.1, fun _ _ => (hx.1.keeps_id bound).2⟩

theorem passes_load (i : Item σ W) (s : Session σ W) : load.Passes (fun _ _ => True) i s := by
  unfold load
  refine passes_bind passes_item ?_
  rintro _ _ t ⟨rfl, rfl⟩
  split
  · exact passes_pure trivial
  · exact passes_throw _
  refine passes_bind passes_identity ?_
  rintro id _ t ⟨named, rfl⟩
  -- From here on the item stays bound, so that it is bound when the outcome is remembered.
  refine passes_when (P := fun j => j.id = some id) ?_ named ?_
  · intro _
    refine passes_mono (passes_decideConflict _) ?_
    rintro _ _ rfl
    exact named
  · intro j u bound
    refine passes_bind (passes_attempt (passes_loadRecord id j u) bound) ?_
    intro outcome k v bound
    refine passes_change_bind (.concluded _ fun _ => by simp [bound]) ?_
    intro _ k v
    rcases outcome with e | ⟨⟩
    · exact passes_throw e
    · exact passes_pure trivial

theorem passes_reload (i : Item σ W) (s : Session σ W) : reload.Passes (fun _ _ => True) i s := by
  refine passes_change_bind (.concluded none nofun) ?_
  intro _ i s
  exact passes_load i s

theorem passes_save (i : Item σ W) (s : Session σ W) : save.Passes (fun _ _ => True) i s := by
  unfold save
  refine passes_then passes_item ?_
  intro k i s
  refine passes_when (P := fun _ => True) ?_ trivial ?_
  · intro _
    exact passes_mono (passes_decideConflict _) fun _ _ _ => trivial
  intro i s _
  refine passes_then (passes_validate i s) ?_
  intro violations i s
  split
  · exact passes_throw _
  refine passes_then (passes_fire .beforeSave i s) ?_
  intro _ i s
  refine passes_then passes_item ?_
  intro k i s
  refine passes_when (P := fun _ => True) (fun _ => passes_fire .beforeCreate i s) trivial ?_
  intro i s _
  -- The identity that is taken here is the one to which the item is bound after the write.
  refine passes_bind passes_identityToSave ?_
  rintro _ _ t ⟨rfl, rfl⟩
  refine passes_bind (passes_writeRecord _) ?_
  rintro _ _ t rfl
  refine passes_change_bind (.saved s) ?_
  intro _ i s
  refine passes_when (P := fun _ => True) (fun _ => passes_fire .afterCreate i s) trivial ?_
  intro i s _
  exact passes_fire .afterSave i s

theorem passes_remove (i : Item σ W) (s : Session σ W) : remove.Passes (fun _ _ => True) i s := by
  refine passes_then passes_identity ?_
  intro id i s
  refine passes_then (passes_fire .beforeRemove i s) ?_
  intro _ i s
  refine passes_then (passes_purgeRecord id) ?_
  intro _ i s
  refine passes_then (passes_note _) ?_
  intro _ i s
  refine passes_change_bind (.concluded none nofun) ?_
  intro _ i s
  exact passes_fire .afterRemove i s

end Watched

/-- The item after an operation within a session. -/
def Operation.leaves (op : Operation) (i : Item σ W) (s : Session σ W) : Item σ W :=
  (op.run.run.run (i, s)).2.1

/-- The moments of an item while an operation runs lead to the item that the operation leaves. -/
theorem Operation.path (op : Operation) (i : Item σ W) (s : Session σ W) :
    Path i (op.watched.moments i s) (op.leaves i s) := by
  have passes : (op.watched : Watched σ W Unit).Passes (fun _ _ => True) i s := by
    cases op with
    | set name v => exact Watched.passes_perform _
    | call name args =>
      refine Watched.passes_then (Watched.passes_perform _) ?_
      intro _ j t
      exact Watched.passes_pure trivial
    | validate =>
      refine Watched.passes_then (Watched.passes_validate i s) ?_
      intro _ j t
      exact Watched.passes_pure trivial
    | load => exact Watched.passes_load i s
    | reload => exact Watched.passes_reload i s
    | save => exact Watched.passes_save i s
    | remove => exact Watched.passes_remove i s
  have path := passes.1
  rwa [op.run_watched] at path

/-! ## The life of an item -/

namespace Item

/-- The item after operations, each of them within a session. -/
def after (i : Item σ W) (ops : List (Operation × Session σ W)) : Item σ W :=
  ops.foldl (fun i (op, s) => op.leaves i s) i

/-- The moments of an item while operations are carried out on it. -/
def goesThrough (i : Item σ W) : List (Operation × Session σ W) → List (Moment σ W)
  | [] => []
  | (op, s) :: rest => op.watched.moments i s ++ (op.leaves i s).goesThrough rest

/-- The moments of an item since it was made. -/
def life (i : Item σ W) (ops : List (Operation × Session σ W)) : List (Moment σ W) :=
  ⟨i, .made⟩ :: i.goesThrough ops

theorem path_goesThrough (i : Item σ W) (ops : List (Operation × Session σ W)) :
    Path i (i.goesThrough ops) (i.after ops) := by
  induction ops generalizing i with
  | nil => exact .nil i
  | cons op rest ih => exact (op.1.path i op.2).append (ih _)

end Item

end EntityStore
