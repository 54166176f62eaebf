import EntityStore.Proofs.Item.Outcome

set_option autoImplicit false

/-! # The stages of saving

Saving an item goes through stages in a fixed order (`Stage.plan`), and the first one that fails
ends it (`Course`, `ItemRun.ends_save_course`). Between the write and the update of the indices
nothing happens, and all other stages are quiet: they run code, and leave the store, the indices and
the identity of the item alone (`Course.goes`). The journal tells which stages were executed
(`Course.exists_journal_eq`). -/

namespace EntityStore

variable {σ W : Type}

/-! ## Stages and courses -/

/-- A stage of saving. -/
inductive Stage
  /-- The policy decides about changes that are not those of the record. -/
  | conflict
  /-- The code for an event runs. -/
  | event (e : LifecycleEvent)
  /-- The violated constraints are collected. -/
  | check
  /-- Collected violations end it. -/
  | verdict
  /-- The record is written. -/
  | write
  /-- The item counts as saved, and all indices take its values. -/
  | index
deriving DecidableEq

/-- How far saving has got. -/
structure Progress (σ W : Type) where
  item : Item σ W
  session : Session σ W
  /-- The identity under which the item is saved. -/
  id : Uuid
  /-- The violations that were collected. -/
  violations : List Violation := []

namespace Progress

/-- Run an operation. -/
def after (p : Progress σ W) (x : ItemRun σ W Unit) : Except ModelError Unit × Progress σ W :=
  let (r, item, session) := x.run.run (p.item, p.session)
  (r, { p with item, session })

/-- The item and the notes of code. -/
def subject (p : Progress σ W) : Item σ W × σ := (p.item, p.session.notes)

end Progress

/-- Whether an item has changes that are not those of its record, which it has not seen. -/
def Item.conflicts (i : Item σ W) : Bool := i.id.isSome && !i.isLoaded && i.hasChanged

namespace Stage

/-- Go through a stage: whether it fails, and how far saving has got then. -/
def run : Stage → Progress σ W → Except ModelError Unit × Progress σ W
  | .conflict, p =>
    if p.item.conflicts then p.after (ItemRun.decideConflict "saving") else (.ok (), p)
  | .event e, p => p.after (ItemRun.fire e)
  | .check, p =>
    (.ok (), { p with
      session := p.session.log .check
      violations := p.item.model.pipeline.violations p.item.properties })
  | .verdict, p =>
    (if p.violations.isEmpty then .ok () else .error (.validation p.violations), p)
  | .write, p =>
    ((p.item.writeUnder p.id p.session.store).1.mapError .storage,
      { p with session := (p.item.identityIn p.session).2.afterWrite p.item p.id })
  | .index, p =>
    (.ok (), { p with
      item := p.item.markSaved p.id
      session := (p.session.log .index).updateIndices p.item.model p.id p.item.properties })

/-- The stages up to the write, for an item that is new or not. -/
def beforeWrite (isNew : Bool) : List Stage :=
  [.conflict, .event .beforeValidate, .check, .event .afterValidate, .verdict,
    .event .beforeSave] ++ if isNew then [.event .beforeCreate] else []

/-- The stages from the update of the indices on. -/
def afterIndex (isNew : Bool) : List Stage :=
  (if isNew then [.event .afterCreate] else []) ++ [.event .afterSave]

/-- All stages, in order. -/
def plan (isNew : Bool) : List Stage :=
  beforeWrite isNew ++ .write :: .index :: afterIndex isNew

/-- What a stage does to the item and the notes of code, apart from the write and what follows from
it: it runs code. -/
def affect : Stage → Item σ W × σ → Item σ W × σ
  | .event e, x => match x.1.model.hook? e with
    | some code => (x.1.runScript code x.2).2
    | none => x
  | _, x => x

/-- What several stages do to the item and the notes of code. -/
def affectAll (stages : List Stage) (x : Item σ W × σ) : Item σ W × σ :=
  stages.foldl (fun x stage => stage.affect x) x

/-- Whether the stage leaves the store, the indices and the identity of the item alone. -/
def isQuiet : Stage → Bool
  | .write | .index => false
  | _ => true

/-- Whether the stage is entered into the journal whenever it is executed. -/
def isNoted : Stage → Bool
  | .conflict | .verdict => false
  | _ => true

end Stage

/-- One stage after the other is executed, up to the first that fails: with these stages, this
result, and so far. -/
inductive Course : List Stage → List Stage → Progress σ W → Except ModelError Unit →
    Progress σ W → Prop
  /-- All stages are done. -/
  | finished (p : Progress σ W) : Course [] [] p (.ok ()) p
  /-- A stage fails, and those after it are not executed. -/
  | failed {stage : Stage} {rest : List Stage} {p q : Progress σ W} {e : ModelError}
      (run : stage.run p = (.error e, q)) : Course (stage :: rest) [stage] p (.error e) q
  /-- A stage is done, and it goes on. -/
  | passed {stage : Stage} {rest executed : List Stage} {p q z : Progress σ W}
      {r : Except ModelError Unit} (run : stage.run p = (.ok (), q))
      (next : Course rest executed q r z) : Course (stage :: rest) (stage :: executed) p r z

theorem Course.isPrefix {stages executed : List Stage} {p q : Progress σ W}
    {r : Except ModelError Unit} (h : Course stages executed p r q) : executed <+: stages := by
  induction h with
  | finished p => exact List.prefix_rfl
  | failed run => exact List.cons_prefix_cons.2 ⟨rfl, List.nil_prefix⟩
  | passed run next ih => exact List.cons_prefix_cons.2 ⟨rfl, ih⟩

/-- A course through stages in two parts ends in the first part by a failure, or goes through it and
on in the second one. -/
theorem Course.append {first second executed : List Stage} {p z : Progress σ W}
    {r : Except ModelError Unit} (h : Course (first ++ second) executed p r z) :
    (Course first executed p r z ∧ ∃ e, r = .error e) ∨
      ∃ q later, executed = first ++ later ∧ Course first first p (.ok ()) q ∧
        Course second later q r z := by
  induction first generalizing executed p with
  | nil => exact .inr ⟨p, executed, rfl, .finished p, h⟩
  | cons stage rest ih =>
    cases h with
    | failed run => exact .inl ⟨.failed run, _, rfl⟩
    | passed run next =>
      rcases ih next with ⟨course, failed⟩ | ⟨q, later, rfl, course, next⟩
      · exact .inl ⟨.passed run course, failed⟩
      · exact .inr ⟨q, later, rfl, .passed run course, next⟩

/-! ## Operations along the stages -/

namespace Progress

/-- The stages lead from here to a result, an item and a session. -/
def Leads (p : Progress σ W) (stages : List Stage) (r : Except ModelError Unit) (j : Item σ W)
    (t : Session σ W) : Prop :=
  ∃ executed q, Course stages executed p r q ∧ q.item = j ∧ q.session = t

variable {p q : Progress σ W} {stage : Stage} {rest : List Stage} {r : Except ModelError Unit}
  {j : Item σ W} {t : Session σ W}

theorem Leads.passed (run : stage.run p = (.ok (), q)) (h : q.Leads rest r j t) :
    p.Leads (stage :: rest) r j t := by
  obtain ⟨executed, z, course, item, session⟩ := h
  exact ⟨stage :: executed, z, .passed run course, item, session⟩

/-- How an operation ends tells how far saving has got after it. -/
theorem after_of_ends {P : Except ModelError Unit → Item σ W → Session σ W → Prop}
    {x : ItemRun σ W Unit} (h : x.Ends P p.item p.session) :
    P (p.after x).1 (p.after x).2.item (p.after x).2.session := h

theorem leads_failed {e : ModelError} (run : stage.run p = (.error e, q)) :
    p.Leads (stage :: rest) (.error e) q.item q.session :=
  ⟨[stage], q, .failed run, rfl, rfl⟩

end Progress

namespace ItemRun

variable {p : Progress σ W} (stage : Stage) {rest : List Stage}

/-- An operation that does what a stage does, and then what the further stages do. -/
theorem leads_bind {x : ItemRun σ W Unit} {f : Unit → ItemRun σ W Unit}
    (does : stage.run p = p.after x)
    (next : ∀ q, stage.run p = (.ok (), q) → (f ()).Ends (q.Leads rest) q.item q.session) :
    (x >>= f).Ends (p.Leads (stage :: rest)) p.item p.session := by
  refine ends_bind (P := fun r j t => stage.run p = (r, { p with item := j, session := t })) does
    (fun _ j t run => ?_) (fun e j t run => Progress.leads_failed run)
  exact ends_mono (next _ run) fun _ _ _ => .passed run

/-- A stage that may have nothing to do, and then the further stages. -/
theorem leads_when {c : Bool} {x : ItemRun σ W Unit} {f : Unit → ItemRun σ W Unit}
    (does : c = true → stage.run p = p.after x) (skip : c = false → stage.run p = (.ok (), p))
    (next : ∀ q, stage.run p = (.ok (), q) → (f ()).Ends (q.Leads rest) q.item q.session) :
    (if c = true then x >>= f else f ()).Ends (p.Leads (stage :: rest)) p.item p.session := by
  split
  · next h => exact leads_bind stage (does h) next
  · next h =>
    have skipped := skip (by simpa using h)
    exact ends_mono (next p skipped) fun _ _ _ => .passed skipped

/-- An operation that does what the last stage does. -/
theorem leads_last {x : ItemRun σ W Unit} (does : stage.run p = p.after x) :
    x.Ends (p.Leads [stage]) p.item p.session := by
  have finished := leads_bind stage (f := pure) does fun q _ => ⟨[], q, .finished q, rfl, rfl⟩
  rwa [bind_pure] at finished

/-- What is left to do once the stage is done. -/
theorem leads_passed {x : ItemRun σ W Unit} {q : Progress σ W} {i : Item σ W} {s : Session σ W}
    (run : stage.run p = (.ok (), q)) (h : x.Ends (q.Leads rest) i s) :
    x.Ends (p.Leads (stage :: rest)) i s := ends_mono h fun _ _ _ => .passed run

end ItemRun

/-! ## Quiet stages -/

/-- The stage that a step of an operation belongs to. -/
def Step.stage? : Step → Option Stage
  | .event e => some (.event e)
  | .check => some .check
  | .write .. => some .write
  | .index => some .index
  | .conflict | .warning _ | .read .. | .purge .. | .unindex => none

/-- A conflict is entered into the journal, maybe with a warning, and nothing else is done. -/
theorem ItemRun.ends_decideConflict_journal (action : String) (i : Item σ W) (s : Session σ W) :
    (decideConflict action).Ends (fun _ j t => j = i ∧ ∃ steps : List Step,
      (∀ step ∈ steps, step.isQuiet = true ∧ step.stage? = none) ∧
        t = { s with journal := s.journal ++ steps }) i s := by
  unfold decideConflict
  rw [ends_note_bind, ends_item_bind]
  split
  · exact ⟨rfl, [.conflict], by simp [Step.isQuiet, Step.stage?], rfl⟩
  · refine ⟨rfl, [.conflict, .warning s!"{action} item with unsaved changes"],
      by simp [Step.isQuiet, Step.stage?], ?_⟩
    show (s.log .conflict).log _ = _
    simp [Session.log]
  · rw [ends_identity_bind]
    split <;> exact ⟨rfl, [.conflict], by simp [Step.isQuiet, Step.stage?], rfl⟩

/-- An event is entered into the journal, and its code runs. -/
theorem ItemRun.ends_fire_journal (e : LifecycleEvent) (i : Item σ W) (s : Session σ W) :
    (fire e).Ends (fun _ j t => j = ((Stage.event e).affect (i, s.notes)).1 ∧
      t = { s with
        notes := ((Stage.event e).affect (i, s.notes)).2
        journal := s.journal ++ [.event e] }) i s := by
  unfold Ends Stage.affect
  rw [run_fire]
  unfold Model.codeFor
  dsimp only
  cases i.model.hook? e with
  | some code => exact ⟨rfl, rfl⟩
  | none => exact ⟨rfl, rfl⟩

theorem Stage.afterEvents_affect (stage : Stage) (x : Item σ W × σ) :
    x.1.AfterEvents (stage.affect x).1 := by
  cases stage with
  | event e =>
    unfold affect
    dsimp only
    split
    · next code h => exact .single ⟨e, code, x.2, h, rfl⟩
    · exact .refl
  | _ => exact .refl

namespace Progress

/-- Stages lead from one point to another one. The item is changed by code only, the session by code
and in its journal. -/
structure Goes (p : Progress σ W) (executed : List Stage) (q : Progress σ W) : Prop where
  /-- What happened to the item are events. -/
  events : p.item.AfterEvents q.item
  /-- The item and the notes are those that the code of the stages leaves. -/
  affected : q.subject = Stage.affectAll executed p.subject
  /-- The stages were entered into the journal, and the rest of the session is as it was. -/
  journal : ∃ steps : List Step, (∀ step ∈ steps, step.isQuiet = true) ∧
    steps.filterMap Step.stage? = executed.filter Stage.isNoted ∧
    q.session = { p.session with
      notes := q.session.notes
      journal := p.session.journal ++ steps }
  /-- The identity is the same. -/
  id_eq : q.id = p.id

namespace Goes

variable {p q z : Progress σ W} {executed later : List Stage}

theorem refl (p : Progress σ W) : p.Goes [] p :=
  ⟨.refl, rfl, ⟨[], by simp, rfl, by simp⟩, rfl⟩

theorem trans (h : p.Goes executed q) (h' : q.Goes later z) : p.Goes (executed ++ later) z := by
  obtain ⟨events, affected, ⟨steps, quiet, noted, session⟩, id⟩ := h
  obtain ⟨events', affected', ⟨steps', quiet', noted', session'⟩, id'⟩ := h'
  refine ⟨events.trans events', ?_, ⟨steps ++ steps', ?_, ?_, ?_⟩, id'.trans id⟩
  · rw [affected', affected, Stage.affectAll, Stage.affectAll, Stage.affectAll, List.foldl_append]
  · exact fun step hs => (List.mem_append.1 hs).elim (quiet step) (quiet' step)
  · rw [List.filterMap_append, List.filter_append, noted, noted']
  · rw [session', session]
    simp

theorem quiet (h : p.Goes executed q) : p.session.Quiet q.session := by
  obtain ⟨steps, quiet, -, session⟩ := h.journal
  exact ⟨steps, q.session.notes, quiet, session⟩

end Goes

end Progress

/-- A quiet stage runs code at most. -/
theorem Stage.goes (stage : Stage) (quiet : stage.isQuiet = true) (p : Progress σ W) :
    p.Goes [stage] (stage.run p).2 := by
  cases stage with
  | conflict =>
    have run_conflict : conflict.run p = if p.item.conflicts = true then
      p.after (ItemRun.decideConflict "saving") else (.ok (), p) := rfl
    rw [run_conflict]
    split
    · obtain ⟨item, steps, hs, session⟩ :=
        Progress.after_of_ends (ItemRun.ends_decideConflict_journal "saving" p.item p.session)
      have notes := congrArg Session.notes session
      refine ⟨?_, Prod.ext item notes, ⟨steps, fun step h => (hs step h).1, ?_, ?_⟩, rfl⟩
      · rw [item]
        exact .refl
      · exact List.filterMap_eq_nil_iff.2 fun step h => (hs step h).2
      · rw [session]
    · exact ⟨.refl, rfl, ⟨[], by simp, rfl, by simp⟩, rfl⟩
  | event e =>
    have run_event : (event e).run p = p.after (ItemRun.fire e) := rfl
    obtain ⟨item, session⟩ :=
      Progress.after_of_ends (ItemRun.ends_fire_journal e p.item p.session)
    have notes := congrArg Session.notes session
    have steps : ∀ step ∈ [Step.event e], step.isQuiet = true := by simp [Step.isQuiet]
    rw [run_event]
    refine ⟨?_, Prod.ext item notes, ⟨[.event e], steps, rfl, ?_⟩, rfl⟩
    · rw [item]
      exact afterEvents_affect (.event e) p.subject
    · rw [session]
  | check => exact ⟨.refl, rfl, ⟨[.check], by simp [Step.isQuiet], rfl, rfl⟩, rfl⟩
  | verdict => exact ⟨.refl, rfl, ⟨[], by simp, rfl, by simp [run]⟩, rfl⟩
  | write => exact absurd quiet (by simp [isQuiet])
  | index => exact absurd quiet (by simp [isQuiet])

theorem Stage.goes_of_run {stage : Stage} (quiet : stage.isQuiet = true) {p q : Progress σ W}
    {r : Except ModelError Unit} (h : stage.run p = (r, q)) : p.Goes [stage] q := by
  have goes := stage.goes quiet p
  rwa [h] at goes

/-- So do several quiet stages, as far as they are executed. -/
theorem Course.goes {stages executed : List Stage} {p q : Progress σ W}
    {r : Except ModelError Unit} (h : Course stages executed p r q)
    (quiet : ∀ stage ∈ stages, stage.isQuiet = true) : p.Goes executed q := by
  induction h with
  | finished p => exact .refl p
  | @failed stage rest p q e run =>
    exact Stage.goes_of_run (quiet stage (.head _)) run
  | @passed stage rest executed p q z r run next ih =>
    have goes := Stage.goes_of_run (quiet stage (.head _)) run
    exact goes.trans (ih fun other h => quiet other (.tail _ h))

theorem quiet_beforeWrite (isNew : Bool) :
    ∀ stage ∈ Stage.beforeWrite isNew, stage.isQuiet = true := by
  cases isNew <;> decide

theorem quiet_afterIndex (isNew : Bool) :
    ∀ stage ∈ Stage.afterIndex isNew, stage.isQuiet = true := by
  cases isNew <;> decide

/-! ## Saving follows the stages -/

/-- Saving is about to begin. -/
def Item.toSave (i : Item σ W) (s : Session σ W) : Progress σ W :=
  { item := i, session := s, id := (i.identityIn s).1 }

/-- Taking an identity changes nothing in a session but how many have been used. -/
theorem Item.exists_identityIn_eq (i : Item σ W) (s : Session σ W) :
    ∃ minted, (i.identityIn s).2 = { s with minted } := by
  unfold identityIn
  cases i.id with
  | some id => exact ⟨s.minted, rfl⟩
  | none => exact ⟨s.minted + 1, rfl⟩

theorem Item.store_identityIn (i : Item σ W) (s : Session σ W) :
    (i.identityIn s).2.store = s.store := by
  obtain ⟨minted, eq⟩ := i.exists_identityIn_eq s
  rw [eq]

namespace Progress.Goes

variable {p q : Progress σ W} {executed : List Stage} {i : Item σ W} {s : Session σ W}

/-- The item is bound to what it was bound to before. -/
theorem item_id_eq (h : p.Goes executed q) : q.item.id = p.item.id := h.events.rewritten.id_eq

/-- The identity under which the item is saved is the one that it would take now. -/
theorem identityIn_eq (h : (i.toSave s).Goes executed q) :
    (q.item.identityIn q.session).1 = q.id := by
  obtain ⟨steps, -, -, session⟩ := h.journal
  rw [h.id_eq, session]
  unfold Item.identityIn
  rw [h.item_id_eq]
  unfold Item.toSave Item.identityIn
  dsimp only
  cases i.id <;> rfl

end Progress.Goes

namespace ItemRun

/-- The stages from the write on. -/
theorem ends_write_course (isNew : Bool) {p : Progress σ W}
    (named : (p.item.identityIn p.session).1 = p.id) :
    (do
      let id ← identityToSave
      writeRecord id
      becomeSaved id
      if isNew then fire .afterCreate
      fire .afterSave : ItemRun σ W Unit).Ends
        (p.Leads (.write :: .index :: Stage.afterIndex isNew)) p.item p.session := by
  rw [ends_identityToSave_bind, ends_writeRecord_bind, named, Item.store_identityIn]
  split
  · next answer =>
    have written : Stage.write.run p = (.ok (), (Stage.write.run p).2) := by
      refine Prod.ext ?_ rfl
      exact congrArg (Except.mapError ModelError.storage) answer
    refine leads_passed .write written ?_
    rw [ends_becomeSaved_bind]
    refine leads_passed .index (p := (Stage.write.run p).2) rfl ?_
    cases isNew with
    | true =>
      rw [if_pos rfl]
      refine leads_bind (.event .afterCreate)
        (p := (Stage.index.run (Stage.write.run p).2).2) rfl fun q _ => ?_
      exact leads_last (.event .afterSave) rfl
    | false =>
      exact leads_last (.event .afterSave)
        (p := (Stage.index.run (Stage.write.run p).2).2) rfl
  · next e answer =>
    have refused : Stage.write.run p = (.error (.storage e), (Stage.write.run p).2) := by
      refine Prod.ext ?_ rfl
      exact congrArg (Except.mapError ModelError.storage) answer
    exact Progress.leads_failed refused

/-- Saving is what its stages do, one after the other up to the first that fails. -/
theorem ends_save_course (i : Item σ W) (s : Session σ W) :
    save.Ends ((i.toSave s).Leads (Stage.plan i.id.isNone)) i s := by
  unfold save
  rw [ends_item_bind]
  refine leads_when .conflict (p := i.toSave s) (fun h => if_pos h)
    (fun h => if_neg (Bool.eq_false_iff.1 h)) fun p₁ h₁ => ?_
  have go₁ := Stage.goes_of_run rfl h₁
  unfold validate
  rw [bind_assoc]
  refine leads_bind (.event .beforeValidate) rfl fun p₂ h₂ => ?_
  have go₂ := go₁.trans (Stage.goes_of_run rfl h₂)
  rw [bind_assoc, ends_note_bind, bind_assoc, ends_item_bind, bind_assoc]
  -- The violations that are collected here are judged after the next event.
  refine leads_passed .check (p := p₂) rfl ?_
  have go₃ := go₂.trans (Stage.goes .check rfl p₂)
  refine leads_bind (.event .afterValidate) (p := (Stage.check.run p₂).2) rfl
    fun p₄ h₄ => ?_
  have go₄ := go₃.trans (Stage.goes_of_run rfl h₄)
  have collected : p₄.violations = p₂.item.model.pipeline.violations p₂.item.properties :=
    (congrArg (·.2.violations) h₄).symm
  rw [pure_bind, ← collected]
  split
  · next violated =>
    have verdict : Stage.verdict.run p₄ = (.error (.validation p₄.violations), p₄) :=
      congrArg (·, p₄) (if_neg (by simpa using violated))
    exact Progress.leads_failed verdict
  next valid =>
  have verdict : Stage.verdict.run p₄ = (.ok (), p₄) :=
    congrArg (·, p₄) (if_pos (by simpa using valid))
  have go₅ := go₄.trans (Stage.goes_of_run rfl verdict)
  refine leads_passed .verdict verdict (leads_bind (.event .beforeSave) rfl fun p₆ h₆ => ?_)
  have go₆ := go₅.trans (Stage.goes_of_run rfl h₆)
  -- Whether the item is new has not changed since saving began.
  rw [ends_item_bind, go₆.item_id_eq]
  have unbound : (i.toSave s).item.id.isNone = i.id.isNone := rfl
  rw [unbound]
  dsimp only
  cases i.id.isNone with
  | true =>
    rw [if_pos rfl]
    refine leads_bind (.event .beforeCreate) rfl fun p₇ h₇ => ?_
    exact ends_write_course true (go₆.trans (Stage.goes_of_run rfl h₇)).identityIn_eq
  | false => exact ends_write_course false go₆.identityIn_eq

end ItemRun

/-! ## The journal -/

/-- What the write makes of a session. -/
theorem Stage.run_write (p : Progress σ W) :
    ∃ minted, (Stage.write.run p).2 = { p with session := { p.session with
      minted
      store := (p.item.writeUnder p.id p.session.store).2
      journal := p.session.journal ++ [.write p.item.model.handle p.id p.item.properties
        (p.item.writeUnder p.id p.session.store).1.isOk] } } := by
  obtain ⟨minted, eq⟩ := p.item.exists_identityIn_eq p.session
  refine ⟨minted, ?_⟩
  show { p with session := (p.item.identityIn p.session).2.afterWrite p.item p.id } = _
  rw [eq]
  rfl

/-- A stage is entered into the journal. -/
theorem Stage.exists_journal_eq (stage : Stage) (p : Progress σ W) :
    ∃ steps, (stage.run p).2.session.journal = p.session.journal ++ steps ∧
      steps.filterMap Step.stage? = [stage].filter isNoted := by
  cases quiet : stage.isQuiet with
  | true =>
    obtain ⟨steps, -, noted, session⟩ := (stage.goes quiet p).journal
    exact ⟨steps, by rw [session], noted⟩
  | false =>
    cases stage with
    | write =>
      obtain ⟨minted, written⟩ := Stage.run_write p
      exact ⟨[.write ..], by rw [written], rfl⟩
    | index => exact ⟨[.index], rfl, rfl⟩
    | _ => exact absurd quiet (by simp [isQuiet])

/-- So is a course, stage by stage. -/
theorem Course.exists_journal_eq {stages executed : List Stage} {p q : Progress σ W}
    {r : Except ModelError Unit} (h : Course stages executed p r q) :
    ∃ steps, q.session.journal = p.session.journal ++ steps ∧
      steps.filterMap Step.stage? = executed.filter Stage.isNoted := by
  induction h with
  | finished p => exact ⟨[], by simp, rfl⟩
  | @failed stage rest p q e run =>
    have noted := stage.exists_journal_eq p
    rwa [run] at noted
  | @passed stage rest executed p q z r run next ih =>
    obtain ⟨steps, journal, noted⟩ := stage.exists_journal_eq p
    obtain ⟨steps', journal', noted'⟩ := ih
    rw [run] at journal
    refine ⟨steps ++ steps', by rw [journal', journal, List.append_assoc], ?_⟩
    rw [List.filterMap_append, noted, noted', ← List.filter_append]
    rfl

end EntityStore
