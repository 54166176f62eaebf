import EntityStore.Proofs.Item.Stages

set_option autoImplicit false

/-! # What is stored does not matter up to the write

Saving an item looks at the item, at the notes and at the policy, and only the write asks the store.
So with any other store in place the stages before the write are the same, they end with the same
result, and they leave the same item and the same session but for the store (`Course.withStore`).
What saving an item comes to can be told from there (`Prepared`, `ends_save_prepared`). -/

namespace EntityStore

variable {σ W α β : Type}

/-! ## Another store -/

/-- The session with another store. -/
def Session.withStore (s : Session σ W) (store : W) : Session σ W := { s with store }

def Progress.withStore (p : Progress σ W) (store : W) : Progress σ W :=
  { p with session := p.session.withStore store }

/-- The identity under which an item is saved does not depend on the store. -/
@[simp]
theorem Item.toSave_withStore (i : Item σ W) (s : Session σ W) (store : W) :
    i.toSave (s.withStore store) = (i.toSave s).withStore store := by
  unfold toSave identityIn
  cases i.id <;> rfl

namespace ItemRun

/-- An operation does the same with another store in place, which it leaves as it is. -/
def IgnoresStore (x : ItemRun σ W α) : Prop := ∀ i s store,
  x.run.run (i, s.withStore store) =
    ((x.run.run (i, s)).1, (x.run.run (i, s)).2.1, (x.run.run (i, s)).2.2.withStore store)

theorem ignoresStore_pure (a : α) : IgnoresStore (pure a : ItemRun σ W α) := fun _ _ _ => rfl

theorem ignoresStore_throw (e : ModelError) : IgnoresStore (throw e : ItemRun σ W α) :=
  fun _ _ _ => rfl

theorem ignoresStore_bind {x : ItemRun σ W α} {f : α → ItemRun σ W β} (first : IgnoresStore x)
    (next : ∀ a, IgnoresStore (f a)) : IgnoresStore (x >>= f) := by
  intro i s store
  rw [run_bind, run_bind, first]
  rcases x.run.run (i, s) with ⟨e | a, j, t⟩
  · rfl
  · exact next a j t store

theorem ignoresStore_note (step : Step) : IgnoresStore (note step : ItemRun σ W Unit) :=
  fun _ _ _ => rfl

theorem ignoresStore_item_bind {f : Item σ W → ItemRun σ W β} (next : ∀ i, IgnoresStore (f i)) :
    IgnoresStore (item >>= f) := ignoresStore_bind (fun _ _ _ => rfl) next

theorem ignoresStore_identity : IgnoresStore (identity : ItemRun σ W Uuid) := by
  refine ignoresStore_item_bind ?_
  intro i
  cases i.id with
  | some id => exact ignoresStore_pure id
  | none => exact ignoresStore_throw _

theorem ignoresStore_fire (e : LifecycleEvent) : IgnoresStore (fire e : ItemRun σ W Unit) := by
  intro i s store
  rw [run_fire, run_fire]
  rfl

theorem ignoresStore_decideConflict (action : String) :
    IgnoresStore (decideConflict action : ItemRun σ W Unit) := by
  refine ignoresStore_bind (ignoresStore_note _) fun _ => ignoresStore_item_bind ?_
  intro i
  cases i.onUnsaved with
  | ignore => exact ignoresStore_pure ()
  | warn => exact ignoresStore_note _
  | fail => exact ignoresStore_bind ignoresStore_identity fun id => ignoresStore_throw _

end ItemRun

/-! ## Stages -/

theorem Progress.after_withStore {x : ItemRun σ W Unit} (h : x.IgnoresStore) (p : Progress σ W)
    (store : W) :
    (p.withStore store).after x = ((p.after x).1, (p.after x).2.withStore store) := by
  have item : (p.withStore store).item = p.item := rfl
  have session : (p.withStore store).session = p.session.withStore store := rfl
  unfold after
  rw [item, session, h]
  rfl

/-- A quiet stage does the same with another store in place. -/
theorem Stage.run_withStore {stage : Stage} (quiet : stage.isQuiet = true) (p : Progress σ W)
    (store : W) :
    stage.run (p.withStore store) = ((stage.run p).1, (stage.run p).2.withStore store) := by
  cases stage with
  | conflict =>
    have run_conflict (p : Progress σ W) : conflict.run p = if p.item.conflicts = true then
      p.after (ItemRun.decideConflict "saving") else (.ok (), p) := rfl
    have same : (p.withStore store).item.conflicts = p.item.conflicts := rfl
    rw [run_conflict, run_conflict, same]
    split
    · exact p.after_withStore (ItemRun.ignoresStore_decideConflict _) store
    · rfl
  | event e => exact p.after_withStore (ItemRun.ignoresStore_fire e) store
  | check => rfl
  | verdict => rfl
  | write => exact absurd quiet (by simp [isQuiet])
  | index => exact absurd quiet (by simp [isQuiet])

/-- With another store in place, quiet stages take the same course. -/
theorem Course.withStore {stages executed : List Stage} {p q : Progress σ W}
    {r : Except ModelError Unit} (h : Course stages executed p r q)
    (quiet : ∀ stage ∈ stages, stage.isQuiet = true) (store : W) :
    Course stages executed (p.withStore store) r (q.withStore store) := by
  induction h with
  | finished p => exact .finished _
  | @failed stage rest p q e run =>
    refine .failed ?_
    rw [Stage.run_withStore (quiet stage (.head _)), run]
  | @passed stage rest executed p q z r run next ih =>
    refine .passed (q := q.withStore store) ?_ (ih fun other h => quiet other (.tail _ h))
    rw [Stage.run_withStore (quiet stage (.head _)), run]

/-! ## Saving -/

/-- Whatever is stored, the stages before the write end with `r`, and with saving as far as `q`. -/
structure Prepared (i : Item σ W) (s : Session σ W) (executed : List Stage)
    (r : Except ModelError Unit) (q : Progress σ W) : Prop where
  /-- With any store in place they take the same course. -/
  course : ∀ store, Course (Stage.beforeWrite i.id.isNone) executed
    (i.toSave (s.withStore store)) r (q.withStore store)
  /-- The item and the notes are those that the code of the executed stages leaves. -/
  affected : q.subject = Stage.affectAll executed (i, s.notes)
  /-- Nothing has been written. -/
  store_eq : q.session.store = s.store

theorem Course.prepared {i : Item σ W} {s : Session σ W} {executed : List Stage}
    {r : Except ModelError Unit} {q : Progress σ W}
    (h : Course (Stage.beforeWrite i.id.isNone) executed (i.toSave s) r q) :
    Prepared i s executed r q where
  course store := by
    rw [Item.toSave_withStore]
    exact h.withStore (quiet_beforeWrite _) store
  affected := (h.goes (quiet_beforeWrite _)).affected
  store_eq := (h.goes (quiet_beforeWrite _)).quiet.store_eq

/-- From the write on, nothing but the write touches the store. -/
theorem Course.store_eq_of_write {isNew : Bool} {executed : List Stage} {p z : Progress σ W}
    {r : Except ModelError Unit}
    (h : Course (.write :: .index :: Stage.afterIndex isNew) executed p r z) :
    z.session.store = (p.item.writeUnder p.id p.session.store).2 := by
  obtain ⟨minted, written⟩ := Stage.run_write p
  have store : (Stage.write.run p).2.session.store =
      (p.item.writeUnder p.id p.session.store).2 := by
    rw [written]
  cases h with
  | failed run => rwa [run] at store
  | passed run next =>
    rw [run] at store
    cases next with
    | failed run => exact absurd (Prod.ext_iff.1 run).1 (by simp [Stage.run])
    | @passed _ _ _ _ u _ _ indexed later =>
      obtain rfl : (Stage.index.run _).2 = u := (Prod.ext_iff.1 indexed).2
      rw [(later.goes (quiet_afterIndex _)).quiet.store_eq, ← store]
      rfl

/-- Saving an item ends where a stage before the write fails, and nothing is written; or the item as
the code before the write leaves it is written, and nothing else is. -/
theorem ItemRun.ends_save_prepared (i : Item σ W) (s : Session σ W) :
    save.Ends (fun r j t => ∃ executed first q, Prepared i s executed first q ∧
      match first with
      | .error e => r = .error e ∧ j = q.item ∧ t = q.session ∧ t.store = s.store
      | .ok () => executed = Stage.beforeWrite i.id.isNone ∧
          t.store = (q.item.writeUnder (i.identityIn s).1 s.store).2) i s := by
  refine ends_mono (ends_save_course i s) ?_
  rintro r j t ⟨executed, z, course, rfl, rfl⟩
  rcases Course.append course with ⟨early, e, rfl⟩ | ⟨q, later, rfl, before, course⟩
  · exact ⟨executed, .error e, z, early.prepared, rfl, rfl, rfl, early.prepared.store_eq⟩
  · have go := before.goes (quiet_beforeWrite _)
    refine ⟨_, .ok (), q, before.prepared, rfl, ?_⟩
    rw [course.store_eq_of_write, before.prepared.store_eq, go.id_eq]
    rfl

end EntityStore
