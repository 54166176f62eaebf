import EntityStore.Proofs.Item.Stages

set_option autoImplicit false

/-! # The course of loading

Loading an item repeats the outcome that it remembers, or is declined because the item is not bound
or there is a conflict, or is an attempt to read the record (`LoadCourse`, `ends_load_course`). An
attempt takes up to three steps in a fixed order: code runs, the store is asked, and when the item
has adopted the record, code runs again (`Attempt`). -/

namespace EntityStore

variable {σ W : Type}

/-! ## Code for events -/

/-- Let the code for an event run on an item, if its model has any. -/
def Item.respond (i : Item σ W) (e : LifecycleEvent) (notes : σ) :
    Except ModelError Unit × Item σ W × σ :=
  match i.model.hook? e with
  | some code => i.runScript code notes
  | none => (.ok (), i, notes)

/-- An event ends as its code does, and is entered into the journal. -/
theorem ItemRun.ends_fire_respond (e : LifecycleEvent) (i : Item σ W) (s : Session σ W) :
    (fire e).Ends (fun r j t => i.respond e s.notes = (r, j, t.notes) ∧ t.store = s.store ∧
      t.journal = s.journal ++ [.event e]) i s := by
  unfold Ends Item.respond
  rw [run_fire]
  unfold Model.codeFor
  cases i.model.hook? e with
  | some code => exact ⟨rfl, rfl, rfl⟩
  | none => exact ⟨rfl, rfl, rfl⟩

/-! ## Attempts -/

/-- A step of an attempt to load an item. -/
inductive LoadStep
  /-- The event before the record is read. -/
  | before
  /-- The store is asked for the record. -/
  | read
  /-- The event after the item has adopted the record. -/
  | after
deriving DecidableEq

/-- The steps of an attempt that gets to its end. -/
def LoadStep.inOrder : List LoadStep := [.before, .read, .after]

/-- The part that a step has in loading an item. -/
def Step.loadStep? : Step → Option LoadStep
  | .event .beforeLoad => some .before
  | .read .. => some .read
  | .event .afterLoad => some .after
  | _ => none

/-- Deciding about a conflict has no part in loading an item. -/
theorem Step.loadStep?_eq_none {step : Step} (quiet : step.isQuiet = true)
    (noStage : step.stage? = none) : step.loadStep? = none := by
  cases step with
  | event e => exact absurd noStage (by simp [stage?])
  | read model id record => exact absurd quiet (by simp [isQuiet])
  | _ => rfl

/-- An attempt to load an item under an identity, with notes and a store: how it ends, which item it
leaves, and which steps it takes. -/
inductive Attempt (i : Item σ W) (id : Uuid) (notes : σ) (store : W) :
    Except ModelError Unit → Item σ W → List Step → Prop
  /-- Code fails before the record is read. -/
  | prevented {j : Item σ W} {notes' : σ} {e : ModelError}
      (before : i.respond .beforeLoad notes = (.error e, j, notes')) :
      Attempt i id notes store (.error e) j [.event .beforeLoad]
  /-- The store does not give the record. -/
  | refused {j : Item σ W} {notes' : σ} {e : StorageError}
      (before : i.respond .beforeLoad notes = (.ok (), j, notes'))
      (answer : j.readUnder id store = .error e) :
      Attempt i id notes store (.error (.storage e)) j
        [.event .beforeLoad, .read j.model.handle id none]
  /-- The item adopts the record, and code decides about the result. -/
  | adopted {j k : Item σ W} {notes' notes'' : σ} {record : Record} {r : Except ModelError Unit}
      (before : i.respond .beforeLoad notes = (.ok (), j, notes'))
      (answer : j.readUnder id store = .ok record)
      (after : (j.adopt record).respond .afterLoad notes' = (r, k, notes'')) :
      Attempt i id notes store r k
        [.event .beforeLoad, .read j.model.handle id (some record), .event .afterLoad]

theorem Attempt.isPrefix_inOrder {i j : Item σ W} {id : Uuid} {notes : σ} {store : W}
    {r : Except ModelError Unit} {steps : List Step} (h : Attempt i id notes store r j steps) :
    steps.filterMap Step.loadStep? <+: LoadStep.inOrder := by
  cases h with
  | prevented before => exact ⟨[.read, .after], rfl⟩
  | refused before answer => exact ⟨[.after], rfl⟩
  | adopted before answer after => exact List.prefix_rfl

theorem ItemRun.ends_loadRecord_attempt (id : Uuid) (i : Item σ W) (s : Session σ W) :
    (loadRecord id).Ends (fun r j t => ∃ steps, Attempt i id s.notes s.store r j steps ∧
      t.journal = s.journal ++ steps) i s := by
  unfold loadRecord
  refine ends_bind (ends_fire_respond .beforeLoad i s) ?_ ?_
  · rintro _ j t ⟨before, store, journal⟩
    rw [ends_readRecord_bind]
    split
    · next record answer =>
      rw [ends_modifyItem_bind]
      refine ends_mono (ends_fire_respond .afterLoad _ _) ?_
      rintro r k u ⟨after, -, journal'⟩
      refine ⟨_, .adopted before (by rwa [← store]) after, ?_⟩
      rw [journal', Session.afterRead, answer]
      simp [Session.log, journal, Except.toOption]
    · next e answer =>
      refine ⟨_, .refused before (by rwa [← store]), ?_⟩
      rw [Session.afterRead, answer]
      simp [Session.log, journal, Except.toOption]
  · rintro e j t ⟨before, -, journal⟩
    exact ⟨_, .prevented before, journal⟩

/-! ## Loading -/

/-- The item is bound, and loading it does not discard changes that the policy protects. -/
def Item.IsLoadable (i : Item σ W) : Prop :=
  i.id.isSome = true ∧ (i.hasChanged = true → i.onUnsaved ≠ .fail)

/-- How loading an item within a session ends, which item it leaves, and which steps it takes. -/
inductive LoadCourse (i : Item σ W) (s : Session σ W) :
    Except ModelError Unit → Item σ W → List Step → Prop
  /-- The outcome that the item remembers is repeated. -/
  | repeated {r : Except ModelError Unit} (known : i.outcome = some r) : LoadCourse i s r i []
  /-- The item has no identity, or there is a conflict. -/
  | declined {asked : List Step} {e : ModelError} (fresh : i.outcome = none)
      (refusal : ¬ i.IsLoadable) (aside : ∀ step ∈ asked, step.loadStep? = none) :
      LoadCourse i s (.error e) i asked
  /-- An attempt is made, and its outcome remembered. -/
  | tried {j : Item σ W} {id : Uuid} {asked steps : List Step} {r : Except ModelError Unit}
      (fresh : i.outcome = none) (loadable : i.IsLoadable) (named : i.id = some id)
      (aside : ∀ step ∈ asked, step.loadStep? = none)
      (attempt : Attempt i id s.notes s.store r j steps) :
      LoadCourse i s r (j.withOutcome (some r)) (asked ++ steps)

namespace ItemRun

theorem ends_and {α : Type} {x : ItemRun σ W α}
    {P Q : Except ModelError α → Item σ W → Session σ W → Prop} {i : Item σ W} {s : Session σ W}
    (hP : x.Ends P i s) (hQ : x.Ends Q i s) : x.Ends (fun r j t => P r j t ∧ Q r j t) i s :=
  ⟨hP, hQ⟩

/-- The policy `fail`, and no other, makes a conflict fail. -/
theorem ends_decideConflict_policy (action : String) (i : Item σ W) (s : Session σ W) :
    (decideConflict action).Ends (fun r _ _ => r = .ok () ↔ i.onUnsaved ≠ .fail) i s := by
  unfold decideConflict
  rw [ends_note_bind, ends_item_bind]
  cases i.onUnsaved with
  | ignore => exact iff_of_true rfl (by simp)
  | warn => exact iff_of_true rfl (by simp)
  | fail =>
    rw [ends_identity_bind]
    split <;> exact iff_of_false nofun (by simp)

theorem ends_load_course (i : Item σ W) (s : Session σ W) :
    load.Ends (fun r j t => ∃ steps, LoadCourse i s r j steps ∧
      t.journal = s.journal ++ steps) i s := by
  unfold load
  rw [ends_item_bind]
  split
  · next known => exact ⟨[], .repeated known, (List.append_nil _).symm⟩
  · next e known => exact ⟨[], .repeated known, (List.append_nil _).symm⟩
  next fresh =>
  rw [ends_identity_bind]
  split
  · next id named =>
    have bound : i.id.isSome = true := by rw [named]; rfl
    -- If the policy is asked, it lets the attempt happen or declines it.
    refine ends_when (P := fun r j t => (r = .ok () ↔ i.IsLoadable) ∧ j = i ∧
      ∃ asked, (∀ step ∈ asked, step.loadStep? = none) ∧
        t = { s with journal := s.journal ++ asked }) ?_ ?_ ?_ ?_
    · intro changed
      refine ends_mono (ends_and (ends_decideConflict_policy "discarding changes of" i s)
        (ends_decideConflict_journal "discarding changes of" i s)) ?_
      rintro r j t ⟨passes, same, asked, aside, session⟩
      refine ⟨passes.trans ⟨fun policy => ⟨bound, fun _ => policy⟩, fun loadable => ?_⟩, same,
        asked, fun step member => ?_, session⟩
      · exact loadable.2 changed
      · exact Step.loadStep?_eq_none (aside step member).1 (aside step member).2
    · intro unchanged
      refine ⟨iff_of_true rfl ⟨bound, fun changed => ?_⟩, rfl, [], by simp, by simp⟩
      exact absurd (unchanged.symm.trans changed) (by simp)
    · rintro _ _ ⟨passes, rfl, asked, aside, rfl⟩
      refine ends_attempt_bind (ends_loadRecord_attempt id _ _) ?_
      rintro r j u ⟨steps, attempt, journal⟩
      have course : LoadCourse _ s r (j.withOutcome (some r)) (asked ++ steps) :=
        .tried fresh (passes.1 rfl) named aside attempt
      rw [ends_modifyItem_bind]
      rcases r with e | ⟨⟩ <;> exact ⟨_, course, journal.trans (List.append_assoc ..)⟩
    · rintro e _ _ ⟨passes, rfl, asked, aside, rfl⟩
      exact ⟨asked, .declined fresh (fun loadable => nomatch passes.2 loadable) aside, rfl⟩
  · next unbound =>
    refine ⟨[], .declined fresh (fun loadable => ?_) (by simp), (List.append_nil _).symm⟩
    exact absurd loadable.1 (by simp [unbound])

/-- The outcome that the item remembers is repeated, and nothing happens. -/
theorem ends_load_known {i : Item σ W} {outcome : Except ModelError Unit}
    (known : i.outcome = some outcome) (s : Session σ W) :
    load.Ends (fun r j t => r = outcome ∧ j = i ∧ t = s) i s := by
  unfold load
  rw [ends_item_bind, known]
  rcases outcome with e | ⟨⟩ <;> exact ⟨rfl, rfl, rfl⟩

end ItemRun

end EntityStore
