import EntityStore.Proofs.Item.Attempt
import EntityStore.Proofs.Item.Conflict
import EntityStore.Proofs.Item.Path

set_option autoImplicit false

/-! # A reload that is refused

Under the policy `fail` an item with recorded changes is not loaded anew. By then it has already
forgotten how loading ended, and that is all that happens (`ends_reload_conflict`). So an item that
was loaded or saved counts as one whose record was never read: it is stuck (`Item.Stuck`). Whatever
is done with it, its changes stay recorded and it does not get loaded (`Item.Stuck.after`), and
every attempt to save it is a conflict, where it could have been saved before
(`reload_refused`, `refused_reload_prevents_save`). -/

namespace EntityStore

variable {σ W : Type}

/-! ## Changes stay recorded -/

theorem Changes.any_markAll {c : Changes} (h : c.any = true) (l : List String) :
    (l.foldl mark c).any = true := by
  induction l generalizing c with
  | nil => exact h
  | cons name rest ih => exact ih (c := c.mark name) rfl

theorem Item.Assigned.hasChanged {i j : Item σ W} (h : i.Assigned j)
    (changed : i.hasChanged = true) : j.hasChanged = true := by
  obtain ⟨name, p, v, -, rfl⟩ | ⟨name, c, v, -, rfl⟩ := h.cases
  · unfold setProperty
    dsimp only
    split
    · exact changed
    · rfl
  · exact Changes.any_markAll changed _

/-! ## Conflicts -/

section Conflict

variable {i : Item σ W} {id : Uuid}

/-- An item with recorded changes that remembers no outcome is not loaded under the policy
`fail`. -/
theorem ends_load_conflict (bound : i.id = some id) (fresh : i.outcome = none)
    (policy : i.onUnsaved = .fail) (changed : i.hasChanged = true) (s : Session σ W) :
    ItemRun.load.Ends (fun r j t =>
      r = .error (.conflict i.model.name id) ∧ j = i ∧ t = s.log .conflict) i s := by
  unfold ItemRun.load
  rw [ItemRun.ends_item_bind, fresh]
  dsimp only
  rw [ItemRun.ends_identity_bind, bound]
  dsimp only
  rw [if_pos changed]
  refine ItemRun.ends_bind
    (ends_decideConflict_fail bound policy "discarding changes of" s) ?_ ?_
  · rintro _ j t ⟨conflict, -⟩
    exact absurd conflict (by simp)
  · rintro e j t ⟨conflict, rest⟩
    exact ⟨congrArg _ (Except.error.inj conflict), rest⟩

/-- Nor is it loaded anew, whatever it remembers; only, it does not remember that any more. -/
theorem ends_reload_conflict (bound : i.id = some id) (policy : i.onUnsaved = .fail)
    (changed : i.hasChanged = true) (s : Session σ W) :
    ItemRun.reload.Ends (fun r j t => r = .error (.conflict i.model.name id) ∧
      j = i.withOutcome none ∧ t = s.log .conflict) i s := by
  unfold ItemRun.reload
  rw [ItemRun.ends_modifyItem_bind]
  exact ends_load_conflict (i := i.withOutcome none) bound rfl policy changed s

end Conflict

/-! ## Stuck items -/

/-- An item of a model has an identity, but its record has not been read or written, and there are
changes that it must not discard. -/
structure Item.Stuck (m : Model σ W) (id : Uuid) (i : Item σ W) : Prop where
  model : i.model = m
  bound : i.id = some id
  policy : i.onUnsaved = .fail
  unloaded : i.isLoaded = false
  changed : i.hasChanged = true

namespace Item.Stuck

variable {m : Model σ W} {id : Uuid} {i j : Item σ W}

theorem rewritten (h : i.Stuck m id) (steps : i.Rewritten j) : j.Stuck m id where
  model := steps.model_eq.trans h.model
  bound := steps.id_eq.trans h.bound
  policy := by
    rw [steps.frame]
    exact h.policy
  unloaded := by
    rw [steps.frame]
    exact h.unloaded
  changed := steps.keeps (fun _ _ changed step => step.hasChanged changed) h.changed

/-- Forgetting how loading ended leaves the item as stuck as it was. -/
theorem forget (h : i.Stuck m id) : (i.withOutcome none).Stuck m id :=
  { h with unloaded := rfl }

/-- Loading a stuck item does not change it. -/
theorem ends_load (h : i.Stuck m id) (s : Session σ W) :
    ItemRun.load.Ends (fun _ j _ => j = i) i s := by
  match outcome : i.outcome with
  | none =>
    exact ItemRun.ends_mono (ends_load_conflict h.bound outcome h.policy h.changed s)
      fun _ _ _ ends => ends.2.1
  | some r =>
    exact ItemRun.ends_mono (ItemRun.ends_load_known outcome s) fun _ _ _ ends => ends.2.1

/-- A stuck item cannot be saved. -/
theorem ends_save (h : i.Stuck m id) (s : Session σ W) :
    ItemRun.save.Ends (fun r j t =>
      r = .error (.conflict m.name id) ∧ j = i ∧ t = s.log .conflict) i s := by
  rw [← h.model]
  exact ends_save_conflict h.bound h.unloaded h.policy h.changed s

/-- Removing the record of a stuck item does not help it. -/
theorem removing (h : i.Stuck m id) {s t : Session σ W} {r : Except ModelError Unit}
    (removing : Removing i s r j t) : j.Stuck m id := by
  cases removing with
  | stopped e events quiet => exact h.rewritten events.rewritten
  | refused e named events quiet answer => exact h.rewritten events.rewritten
  | removed r named events quiet answer after quiet' =>
    exact (h.rewritten events.rewritten).forget.rewritten after.rewritten

/-- A stuck item stays stuck. -/
theorem leaves (h : i.Stuck m id) (op : Operation) (s : Session σ W) :
    (op.leaves i s).Stuck m id := by
  have outcome := op.ends_run i s
  cases op with
  | set name v => exact h.rewritten outcome.1
  | call name args => exact h.rewritten outcome.1
  | validate => exact h.rewritten outcome.1.rewritten
  | load =>
    have same : Operation.load.leaves i s = i := h.ends_load s
    rwa [same]
  | reload =>
    have forgot : Operation.reload.leaves i s = i.withOutcome none :=
      (ends_reload_conflict h.bound h.policy h.changed s).2.1
    rw [forgot]
    exact h.forget
  | save =>
    have same : Operation.save.leaves i s = i := (h.ends_save s).2.1
    rwa [same]
  | remove => exact h.removing outcome

theorem after (h : i.Stuck m id) (ops : List (Operation × Session σ W)) :
    (i.after ops).Stuck m id := by
  induction ops generalizing i with
  | nil => exact h
  | cons op rest ih => exact ih (h.leaves op.1 op.2)

end Item.Stuck

/-! ## Saving with and without the reload -/

/-- An item that is loaded gets to the events around the check of its properties when it is
saved. -/
theorem ends_save_loaded {i : Item σ W} (loaded : i.isLoaded = true) (s : Session σ W) :
    ItemRun.save.Ends (fun _ _ t => ∃ steps, t.journal = s.journal ++ steps ∧
      Step.event .beforeValidate ∈ steps) i s := by
  refine ItemRun.ends_mono (ItemRun.ends_save_course i s) ?_
  rintro r j t ⟨executed, q, course, rfl, rfl⟩
  obtain ⟨steps, journal, stages⟩ := course.exists_journal_eq
  refine ⟨steps, journal, ?_⟩
  have noConflict : Stage.conflict.run (i.toSave s) = (.ok (), i.toSave s) :=
    if_neg (by simp [Item.toSave, Item.conflicts, loaded])
  have executes : .event .beforeValidate ∈ executed := by
    cases course with
    | failed run => exact absurd (congrArg Prod.fst (noConflict.symm.trans run)) (by simp)
    | passed run next => cases next <;> simp
  have noted : .event .beforeValidate ∈ steps.filterMap Step.stage? := by
    rw [stages]
    exact List.mem_filter.2 ⟨executes, rfl⟩
  obtain ⟨step, member, stage⟩ := List.mem_filterMap.1 noted
  cases step with
  | event e =>
    obtain rfl := Stage.event.inj (Option.some.inj stage)
    exact member
  | _ => exact absurd stage (by simp [Step.stage?])

/-- Loading a bound item with recorded changes anew under the policy `fail` is a conflict, and the
store is not asked. Properties, changes and identity stay, but the item does not count as loaded any
more. From then on every save is a conflict, whatever is done in between. That makes no difference
to an item that was not loaded; one that was would have got to the check of its properties. -/
theorem reload_refused {i : Item σ W} {id : Uuid} (bound : i.id = some id)
    (policy : i.onUnsaved = .fail) (changed : i.hasChanged = true) (s : Session σ W) :
    ItemRun.reload.Ends (fun r j t => r = .error (.conflict i.model.name id) ∧
        j = i.withOutcome none ∧ t = s.log .conflict) i s ∧
      (∀ ops t, ItemRun.save.Ends (fun r j u => r = .error (.conflict i.model.name id) ∧
        j = (i.withOutcome none).after ops ∧ u = t.log .conflict)
          ((i.withOutcome none).after ops) t) ∧
      (i.isLoaded = false → ∀ ops t, ItemRun.save.Ends (fun r j u =>
        r = .error (.conflict i.model.name id) ∧ j = i.after ops ∧ u = t.log .conflict)
          (i.after ops) t) ∧
      (i.isLoaded = true → ∀ t, ItemRun.save.Ends (fun _ _ u =>
        ∃ steps, u.journal = t.journal ++ steps ∧ Step.event .beforeValidate ∈ steps) i t) := by
  have stuck (unloaded : i.isLoaded = false) : i.Stuck i.model id :=
    ⟨rfl, bound, policy, unloaded, changed⟩
  have forgotten : (i.withOutcome none).Stuck i.model id := ⟨rfl, bound, policy, rfl, changed⟩
  refine ⟨ends_reload_conflict bound policy changed s, ?_, ?_, ?_⟩
  · exact fun ops t => (forgotten.after ops).ends_save t
  · exact fun unloaded ops t => ((stuck unloaded).after ops).ends_save t
  · exact fun loaded t => ends_save_loaded loaded t

/-! A note that is saved, and then gets another title. -/

/-- The saved note with another title. -/
def retitledNote : Item Unit Memory :=
  (Item.create noteModel (some noteId) none none).after
    [(.save, noteSession), (.set "title" (.string "new"), noteSession)]

theorem reload_refused_retitledNote :
    retitledNote.isLoaded = true ∧
      (Operation.reload.leaves retitledNote noteSession).isLoaded = false ∧
      ∀ ops t, ItemRun.save.Ends (fun r _ u => r = .error (.conflict "Note" noteId) ∧
        u.store = t.store) ((Operation.reload.leaves retitledNote noteSession).after ops) t := by
  have bound : retitledNote.id = some noteId := by decide +kernel
  have policy : retitledNote.onUnsaved = .fail := by decide +kernel
  have changed : retitledNote.hasChanged = true := by decide +kernel
  obtain ⟨⟨-, forgot, -⟩, conflicts, -⟩ := reload_refused bound policy changed noteSession
  have left : Operation.reload.leaves retitledNote noteSession = retitledNote.withOutcome none :=
    forgot
  rw [left]
  refine ⟨by decide +kernel, rfl, fun ops t => ItemRun.ends_mono (conflicts ops t) ?_⟩
  rintro r j u ⟨conflict, -, rfl⟩
  exact ⟨conflict, rfl⟩

/-- A refused reload may make a save fail that would have been done. -/
theorem refused_reload_prevents_save :
    ¬ ∀ (m : Model Unit Memory) (id : Uuid) (ops : List (Operation × Session Unit Memory))
      (s t : Session Unit Memory),
      let i := (Item.create m (some id) none none).after ops
      i.hasChanged = true → i.onUnsaved = .fail →
        (Operation.reload.leaves i s).isLoaded = i.isLoaded ∧
        (ItemRun.save.run.run (Operation.reload.leaves i s, t)).1.isOk =
          (ItemRun.save.run.run (i, t)).1.isOk := by
  intro same
  have saved := (same noteModel noteId
    [(.save, noteSession), (.set "title" (.string "new"), noteSession)] noteSession noteSession
    (by decide +kernel) (by decide +kernel)).2
  exact absurd saved (by decide +kernel)

end EntityStore
