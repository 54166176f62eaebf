import EntityStore.Proofs.Item.Changes
import EntityStore.Proofs.Item.Unread
import EntityStore.Storage.Memory

set_option autoImplicit false

/-! # Saving an item whose record has not been read

An item may be bound to an identity without having read the record that is stored under it
(`Item.Unobserved`). Under the policy `fail`, a change of it that is recorded makes saving it a
conflict, and nothing happens. Without a recorded change all its properties are still the ones it
was given, as defaults or by a record, and saving it goes on from there (`save_unobserved`).

What is stored already is not looked at. So an item that was only made and then saved replaces a
record (`save_replaces_unread`). -/

namespace EntityStore

variable {σ W : Type}

/-- An item of a model is bound to an identity and has not been loaded or saved so far. It was given
properties when it was made, or by a record that it read although loading it failed in the end.
Between the operations on it, anything may happen in the session. -/
inductive Item.Unobserved (m : Model σ W) (id : Uuid) : Item σ W → Properties → Prop
  /-- The item has just been made. -/
  | made (adapter : Option (Adapter W)) (policy : Option UnsavedPolicy) :
      Unobserved m id (create m (some id) adapter policy)
        (create m (some id) adapter policy).properties
  /-- An operation was carried out on the item, after which it still is not loaded. -/
  | operated {i j : Item σ W} {given : Properties} {r : Except ModelError Unit}
      {s t : Session σ W} (before : Unobserved m id i given) (op : Operation)
      (ends : op.run.run.run (i, s) = (r, j, t)) (unloaded : j.isLoaded = false) :
      Unobserved m id j (s.baseline t m given)

/-! ## What operations keep -/

namespace Item.Unobserved

variable {m : Model σ W} {id : Uuid} {i : Item σ W} {given : Properties}

/-- What operations keep of an item holds, if it holds of all items that have just been made. -/
theorem keeps {P : Item σ W → Prop} (kept : Item.Kept P)
    (made : ∀ adapter policy, P (create m (some id) adapter policy))
    (h : i.Unobserved m id given) : P i := by
  induction h with
  | made adapter policy => exact made adapter policy
  | @operated i j given r s t before op ends unloaded ih =>
    have out := op.ends_run i s
    rw [ItemRun.Ends, ends] at out
    exact out.keeps kept ih

@[grind →]
theorem model_eq (h : i.Unobserved m id given) : i.model = m :=
  h.keeps (kept_model m) fun _ _ => rfl

@[grind →]
theorem id_eq (h : i.Unobserved m id given) : i.id = some id :=
  h.keeps (kept_id id) fun _ _ => rfl

theorem isHonest (h : i.Unobserved m id given) : i.changes.IsHonest :=
  h.keeps kept_isHonest fun _ _ => Changes.isHonest_empty

theorem isLoaded_eq (h : i.Unobserved m id given) : i.isLoaded = false := by
  cases h with
  | made adapter policy => rfl
  | operated before op ends unloaded => exact unloaded

/-- The given properties are what the item tracks its changes against. -/
theorem tracks (h : i.Unobserved m id given) : i.Tracks given := by
  induction h with
  | made adapter policy => exact tracks_own _
  | @operated i j given r s t before op ends unloaded ih =>
    have out := op.ends_run i s
    rw [ItemRun.Ends, ends] at out
    obtain ⟨given', turns, tracks⟩ := out.tracks ih
    rw [before.model_eq] at turns
    rwa [turns.baseline_eq]

end Item.Unobserved

/-! ## Saving -/

theorem ends_decideConflict_fail {i : Item σ W} {id : Uuid} (bound : i.id = some id)
    (policy : i.onUnsaved = .fail) (action : String) (s : Session σ W) :
    (ItemRun.decideConflict action).Ends (fun r j t =>
      r = .error (.conflict i.model.name id) ∧ j = i ∧ t = s.log .conflict) i s := by
  unfold ItemRun.decideConflict
  rw [ItemRun.ends_note_bind, ItemRun.ends_item_bind, policy, ItemRun.ends_identity_bind, bound]
  exact ⟨rfl, rfl, rfl⟩

/-- A bound item with recorded changes that is not loaded cannot be saved under the policy `fail`:
that is a conflict, and nothing happens. -/
theorem ends_save_conflict {i : Item σ W} {id : Uuid} (bound : i.id = some id)
    (unloaded : i.isLoaded = false) (policy : i.onUnsaved = .fail) (changed : i.hasChanged = true)
    (s : Session σ W) :
    ItemRun.save.Ends (fun r j t =>
      r = .error (.conflict i.model.name id) ∧ j = i ∧ t = s.log .conflict) i s := by
  -- The item is bound, not loaded and changed, so the policy is asked.
  have asked : (i.id.isSome && !i.isLoaded && i.hasChanged) = true := by
    rw [bound, unloaded, changed]
    rfl
  unfold ItemRun.save
  rw [ItemRun.ends_item_bind, if_pos asked]
  refine ItemRun.ends_bind (ends_decideConflict_fail bound policy "saving" s) ?_ ?_
  · rintro _ j t ⟨conflict, -⟩
    exact absurd conflict (by simp)
  · rintro e j t ⟨conflict, rest⟩
    exact ⟨congrArg _ (Except.error.inj conflict), rest⟩

/-- Saving an item that has not been loaded or saved, under the policy `fail`: with a recorded
change it is a conflict that leaves item, store and indices alone; without one all declared
properties agree with those that the item was given. Then saving goes through the stages before the
write in the same way whatever is stored. Where one of them fails, nothing is written; else the one
record that is written is that of the item as the code of these stages leaves it, one after the
other. -/
theorem save_unobserved {m : Model σ W} {id : Uuid} {i : Item σ W} {given : Properties}
    (unobserved : i.Unobserved m id given) (policy : i.onUnsaved = .fail) (s : Session σ W) :
    ItemRun.save.Ends (fun r j t =>
      (i.hasChanged = true ∧ r = .error (.conflict m.name id) ∧ j = i ∧ t = s.log .conflict) ∨
      (i.hasChanged = false ∧
        (∀ name ∈ m.schema.properties.names,
          Agree (given.get? name) (i.properties.get? name)) ∧
        ∃ executed first q, Prepared i s executed first q ∧
          match first with
          | .error e => r = .error e ∧ j = q.item ∧ t = q.session ∧ t.store = s.store
          | .ok () => t.store =
              ((Stage.affectAll (Stage.beforeWrite false) (i, s.notes)).1.writeUnder id
                s.store).2)) i s := by
  cases changed : i.hasChanged with
  | true =>
    have conflict := ends_save_conflict unobserved.id_eq unobserved.isLoaded_eq policy changed s
    rw [unobserved.model_eq] at conflict
    exact ItemRun.ends_mono conflict fun r j t h => .inl ⟨rfl, h⟩
  | false =>
    have agree := unobserved.tracks.agree unobserved.isHonest changed
    rw [unobserved.model_eq] at agree
    refine ItemRun.ends_mono (ItemRun.ends_save_prepared i s) ?_
    rintro r j t ⟨executed, first, q, prepared, ends⟩
    refine .inr ⟨rfl, agree, executed, first, q, prepared, ?_⟩
    rcases first with e | ⟨⟩
    · exact ends
    · obtain ⟨rfl, written⟩ := ends
      have left : q.item = (Stage.affectAll (Stage.beforeWrite i.id.isNone) (i, s.notes)).1 :=
        congrArg Prod.fst prepared.affected
      rw [left, unobserved.id_eq, i.identityIn_eq unobserved.id_eq] at written
      exact written

/-! A note that is made under the identity of a stored one and then saved. -/

/-- The model of notes, which have a title and are kept in memory. -/
def noteModel : Model Unit Memory :=
  (Model.compile { adapter := Memory.adapter 1 true } 1 "Note" (Draft.property {} "title" {})
    (.root { adapter := Memory.adapter 1 true }) none).toOption.get (by decide +kernel)

/-- The identity of the notes. -/
def noteId : Uuid := ⟨5, by decide⟩

/-- The stored note. -/
def noteRecord : Record := Bag.ofList [("title", .string "kept")]

/-- A session with the stored note. -/
def noteSession : Session Unit Memory :=
  { store := ⟨Bag.ofList [(noteModel.keys.key noteId, noteRecord)]⟩
    notes := ()
    identities := fun _ => noteId }

/-- A note made under the identity of the stored one, with a new title. -/
def changedNote : Item Unit Memory :=
  ((Operation.set "title" (.string "new")).run.run.run
    (.create noteModel (some noteId) none none, noteSession)).2.1

/-- The changed note is not saved, and the stored one is kept. -/
theorem save_unobserved_changedNote :
    (∃ given, changedNote.Unobserved noteModel noteId given) ∧ changedNote.onUnsaved = .fail ∧
      ItemRun.save.Ends (fun r j t => r = .error (.conflict noteModel.name noteId) ∧
        (j.readUnder noteId t.store).toOption = some noteRecord) changedNote noteSession := by
  have unobserved : changedNote.Unobserved noteModel noteId _ :=
    .operated (s := noteSession) (.made none none) (.set "title" (.string "new")) rfl
      (by decide +kernel)
  have policy : changedNote.onUnsaved = .fail := by decide +kernel
  refine ⟨⟨_, unobserved⟩, policy, ?_⟩
  refine ItemRun.ends_mono (save_unobserved unobserved policy noteSession) ?_
  rintro r j t (⟨-, rfl, rfl, rfl⟩ | ⟨unchanged, -⟩)
  · exact ⟨rfl, by decide +kernel⟩
  · exact absurd unchanged (by decide +kernel)

/-- An unchanged item that has not read its record replaces it when it is saved, also under the
policy `fail`. -/
theorem save_replaces_unread :
    ¬ ∀ (m : Model Unit Memory) (id : Uuid) (i : Item Unit Memory) (given : Properties)
      (s : Session Unit Memory) (record : Record), i.Unobserved m id given → i.onUnsaved = .fail →
      (i.readUnder id s.store).toOption = some record →
      ItemRun.save.Ends (fun _ j t => (j.readUnder id t.store).toOption = some record) i s := by
  intro kept
  have same := kept noteModel noteId _ _ noteSession noteRecord (.made none none)
    (by decide +kernel) (by decide +kernel)
  unfold ItemRun.Ends at same
  exact absurd same (by decide +kernel)

end EntityStore
