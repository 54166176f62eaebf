import Mathlib.Data.List.Infix
import EntityStore.Proofs.Item.Attempt
import EntityStore.Proofs.Item.Conflict
import EntityStore.Proofs.Item.Path

set_option autoImplicit false

/-! # Loading takes place once

What happens to an item while operations are carried out on it is seen in its signs: the steps that
were entered into the journal, and the calls of `reload`. Some of them are turns: such a call, a
record that was written, and a record that was removed. Between two turns there is at most one
attempt to load the item (`isInfix_signs`). Once there was one, or the item was saved, it remembers
the outcome up to the next turn (`outcome_after`), and loading repeats that.

Between the operations anything may happen in the session. -/

namespace EntityStore

variable {σ W α β : Type}

/-! ## Signs -/

/-- Whether the step is a change of the stored record that was done. -/
def Step.isTurn : Step → Bool
  | .write _ _ _ done | .purge _ _ done => done
  | _ => false

/-- What is seen of an operation. -/
inductive Sign
  /-- The item is loaded anew. -/
  | reload
  /-- A step is entered into the journal. -/
  | step (entry : Step)
deriving DecidableEq

namespace Sign

def loadStep? : Sign → Option LoadStep
  | .reload => none
  | .step entry => entry.loadStep?

/-- Whether the outcome of loading may be another one from here on. -/
def isTurn : Sign → Bool
  | .reload => true
  | .step entry => entry.isTurn

/-- The steps among signs that take part in loading. -/
def loadSteps (l : List Sign) : List LoadStep := l.filterMap loadStep?

/-- There is no turn among the signs. -/
def Straight (l : List Sign) : Prop := ∀ sign ∈ l, sign.isTurn = false

instance (l : List Sign) : Decidable (Straight l) :=
  inferInstanceAs (Decidable (∀ sign ∈ l, sign.isTurn = false))

theorem loadSteps_append (l l' : List Sign) :
    loadSteps (l ++ l') = loadSteps l ++ loadSteps l' := List.filterMap_append

theorem loadSteps_map (steps : List Step) :
    loadSteps (steps.map .step) = steps.filterMap Step.loadStep? := by
  rw [loadSteps, List.filterMap_map]
  rfl

theorem straight_append {l l' : List Sign} : Straight (l ++ l') ↔ Straight l ∧ Straight l' :=
  List.forall_mem_append

end Sign

/-- What is seen of an operation when it is called. -/
def Operation.callSigns : Operation → List Sign
  | .reload => [.reload]
  | _ => []

/-- The signs of an operation on an item within a session. -/
def Operation.signs (op : Operation) (i : Item σ W) (s : Session σ W) : List Sign :=
  op.callSigns ++ ((op.run.run.run (i, s)).2.2.journal.drop s.journal.length).map .step

/-- The signs of operations on an item, each of them within a session. -/
def Item.signs (i : Item σ W) : List (Operation × Session σ W) → List Sign
  | [] => []
  | (op, s) :: rest => op.signs i s ++ (op.leaves i s).signs rest

/-! ## Operations that do not load the item -/

namespace ItemRun

/-- All steps that the operation takes pass a test. -/
def Takes (test : Step → Prop) (x : ItemRun σ W α) : Prop :=
  ∀ i s, x.Ends (fun _ _ t => ∃ steps, t.journal = s.journal ++ steps ∧
    ∀ step ∈ steps, test step) i s

section Takes

variable {test : Step → Prop}

theorem takes_bind {x : ItemRun σ W α} {f : α → ItemRun σ W β} (hx : x.Takes test)
    (hf : ∀ a, (f a).Takes test) : (x >>= f).Takes test := by
  intro i s
  refine ends_bind (hx i s) ?_ fun _ _ _ h => h
  rintro a j t ⟨steps, journal, pass⟩
  refine ends_mono (hf a j t) ?_
  rintro r k u ⟨steps', journal', pass'⟩
  refine ⟨steps ++ steps', ?_, List.forall_mem_append.2 ⟨pass, pass'⟩⟩
  rw [journal', journal, List.append_assoc]

/-- An operation that leaves the journal alone. -/
theorem takes_nothing {x : ItemRun σ W α}
    (h : ∀ i s, x.Ends (fun _ _ t => t.journal = s.journal) i s) : x.Takes test :=
  fun i s => ⟨[], (h i s).trans (List.append_nil _).symm, by simp⟩

theorem takes_pure (a : α) : (pure a : ItemRun σ W α).Takes test := takes_nothing fun _ _ => rfl

theorem takes_throw (e : ModelError) : (throw e : ItemRun σ W α).Takes test :=
  takes_nothing fun _ _ => rfl

theorem takes_item : (item : ItemRun σ W (Item σ W)).Takes test := takes_nothing fun _ _ => rfl

theorem takes_note {step : Step} (pass : test step) : (note step : ItemRun σ W Unit).Takes test :=
  fun _ _ => ⟨[step], rfl, by simpa using pass⟩

theorem takes_identity : (identity : ItemRun σ W Uuid).Takes test := by
  refine takes_bind takes_item fun i => ?_
  split
  · exact takes_pure _
  · exact takes_throw _

theorem takes_perform (code : Script σ α) : (perform code : ItemRun σ W α).Takes test := by
  refine takes_nothing fun i s => ends_mono (ends_perform code i s) ?_
  rintro r j t ⟨-, -, rfl⟩
  rfl

theorem takes_fire {e : LifecycleEvent} (pass : test (.event e)) :
    (fire e : ItemRun σ W Unit).Takes test := by
  refine takes_bind (takes_note pass) fun _ => takes_bind takes_item fun i => ?_
  split
  · exact takes_perform _
  · exact takes_pure _

/-- An operation under a condition, and then another one. -/
theorem takes_when {c : Bool} {x : ItemRun σ W Unit} {f : Unit → ItemRun σ W β}
    (hx : x.Takes test) (hf : ∀ a, (f a).Takes test) :
    (if c = true then x >>= f else f ()).Takes test := by
  split
  · exact takes_bind hx hf
  · exact hf ()

theorem takes_identityToSave : (identityToSave : ItemRun σ W Uuid).Takes test := by
  refine takes_nothing fun i s => ?_
  rw [← bind_pure identityToSave, ends_identityToSave_bind]
  obtain ⟨minted, eq⟩ := i.exists_identityIn_eq s
  rw [eq]
  rfl

end Takes

/-- A step that has no part in loading an item. -/
def Aside (step : Step) : Prop := step.loadStep? = none

theorem takes_decideConflict (action : String) :
    (decideConflict action : ItemRun σ W Unit).Takes Aside := by
  intro i s
  refine ends_mono (ends_decideConflict_journal action i s) ?_
  rintro r j t ⟨-, asked, aside, rfl⟩
  exact ⟨asked, rfl, fun step member => Step.loadStep?_eq_none (aside step member).1
    (aside step member).2⟩

theorem takes_validate : (validate : ItemRun σ W (List Violation)).Takes Aside := by
  refine takes_bind (takes_fire rfl) fun _ => ?_
  refine takes_bind (takes_note rfl) fun _ => ?_
  refine takes_bind takes_item fun i => ?_
  exact takes_bind (takes_fire rfl) fun _ => takes_pure _

theorem takes_writeRecord (id : Uuid) : (writeRecord id : ItemRun σ W Unit).Takes Aside := by
  intro i s
  rw [← bind_pure (writeRecord id), ends_writeRecord_bind]
  split <;> exact ⟨[.write ..], rfl, by simp [Aside, Step.loadStep?]⟩

theorem takes_purgeRecord (id : Uuid) : (purgeRecord id : ItemRun σ W Unit).Takes Aside := by
  intro i s
  rw [← bind_pure (purgeRecord id), ends_purgeRecord_bind]
  split <;> exact ⟨[.purge ..], rfl, by simp [Aside, Step.loadStep?]⟩

theorem takes_save : (save : ItemRun σ W Unit).Takes Aside := by
  refine takes_bind takes_item fun i => takes_when (takes_decideConflict _) fun _ => ?_
  refine takes_bind takes_validate fun violations => ?_
  split
  · exact takes_throw _
  refine takes_bind (takes_fire rfl) fun _ => takes_bind takes_item fun j => ?_
  refine takes_when (takes_fire rfl) fun _ => takes_bind takes_identityToSave fun id => ?_
  refine takes_bind (takes_writeRecord id) fun _ => ?_
  refine takes_bind (fun _ _ => ⟨[.index], rfl, by simp [Aside, Step.loadStep?]⟩) fun _ => ?_
  exact takes_when (takes_fire rfl) fun _ => takes_fire rfl

theorem takes_remove : (remove : ItemRun σ W Unit).Takes Aside := by
  refine takes_bind takes_identity fun id => takes_bind (takes_fire rfl) fun _ => ?_
  refine takes_bind (takes_purgeRecord id) fun _ => takes_bind (takes_note rfl) fun _ => ?_
  exact takes_bind (takes_nothing fun _ _ => rfl) fun _ => takes_fire rfl

end ItemRun

/-! ## The outcome that an item remembers -/

@[grind →]
theorem Item.Rewritten.outcome_eq {i j : Item σ W} (h : i.Rewritten j) : j.outcome = i.outcome := by
  rw [h.frame]
  rfl

theorem Session.Quiet.exists_journal_eq {s t : Session σ W} (h : s.Quiet t) :
    ∃ steps, t.journal = s.journal ++ steps := by
  obtain ⟨steps, -, -, rfl⟩ := h
  exact ⟨steps, rfl⟩

section Outcome

variable {i j : Item σ W} {s t : Session σ W} {r : Except ModelError Unit} {steps : List Step}

/-- If saving does not write a record, the item remembers what it did. -/
theorem Saving.outcome_eq (h : Saving i s r j t) (journal : t.journal = s.journal ++ steps)
    (straight : ∀ step ∈ steps, step.isTurn = false) : j.outcome = i.outcome := by
  cases h with
  | stopped e events quiet => exact events.rewritten.outcome_eq
  | refused e before valid events quiet answer => exact (before.trans events).rewritten.outcome_eq
  | @written checked k _ u _ r before valid events quiet answer after quiet' =>
    obtain ⟨earlier, start⟩ := quiet.exists_journal_eq
    obtain ⟨later, rest⟩ := quiet'.exists_journal_eq
    obtain ⟨minted, same⟩ := k.exists_identityIn_eq u
    have written : t.journal = s.journal ++ (earlier ++ .write k.model.handle (k.identityIn u).1
        k.properties true :: .index :: later) := by
      rw [rest]
      show ((k.identityIn u).2.afterWrite k (k.identityIn u).1).journal ++ [.index] ++ later = _
      rw [Session.afterWrite, answer, Session.log, same]
      simp [start, Except.isOk, Except.toBool]
    obtain rfl := List.append_cancel_left (journal.symm.trans written)
    exact absurd (straight _ (List.mem_append_right _ (.head _))) (by simp [Step.isTurn])

/-- If removing does not remove a record, the item remembers what it did. -/
theorem Removing.outcome_eq (h : Removing i s r j t) (journal : t.journal = s.journal ++ steps)
    (straight : ∀ step ∈ steps, step.isTurn = false) : j.outcome = i.outcome := by
  cases h with
  | stopped e events quiet => exact events.rewritten.outcome_eq
  | refused e named events quiet answer => exact events.rewritten.outcome_eq
  | @removed k _ u _ id r named events quiet answer after quiet' =>
    obtain ⟨earlier, start⟩ := quiet.exists_journal_eq
    obtain ⟨later, rest⟩ := quiet'.exists_journal_eq
    have removed : t.journal = s.journal ++ (earlier ++ .purge k.model.handle id true ::
        .unindex :: later) := by
      rw [rest]
      show (u.afterPurge k id).journal ++ [.unindex] ++ later = _
      rw [Session.afterPurge, answer, Session.log]
      simp [start, Except.isOk, Except.toBool]
    obtain rfl := List.append_cancel_left (journal.symm.trans removed)
    exact absurd (straight _ (List.mem_append_right _ (.head _))) (by simp [Step.isTurn])

end Outcome

/-! ## Single operations -/

/-- What signs between two items tell about the outcomes that these remember. -/
structure Sequel (i : Item σ W) (l : List Sign) (j : Item σ W) : Prop where
  /-- There is one attempt to load the item at most. -/
  inOrder : Sign.loadSteps l <:+: LoadStep.inOrder
  /-- Without an outcome in the end there was no attempt. -/
  untried : j.outcome = none → Sign.loadSteps l = []
  /-- With an outcome in the beginning there is no attempt before the first turn. -/
  silent : i.outcome ≠ none → ∀ l', l' <+: l → Sign.Straight l' → Sign.loadSteps l' = []
  /-- Without a turn the outcome stays. -/
  steady : i.outcome ≠ none → Sign.Straight l → j.outcome = i.outcome

/-- Signs of which none takes part in loading. -/
theorem Sequel.of_nothing {i j : Item σ W} {l : List Sign} (nothing : Sign.loadSteps l = [])
    (steady : Sign.Straight l → j.outcome = i.outcome) : Sequel i l j where
  inOrder := nothing ▸ List.nil_infix
  untried _ := nothing
  silent _ _ part _ := List.prefix_nil.1 (nothing ▸ part.filterMap Sign.loadStep?)
  steady _ := steady

namespace Operation

variable {i : Item σ W} {s : Session σ W}

theorem signs_eq (op : Operation) {steps : List Step}
    (journal : (op.run.run.run (i, s)).2.2.journal = s.journal ++ steps) :
    op.signs i s = op.callSigns ++ steps.map .step := by
  rw [signs, journal, List.drop_left]

/-- An operation that takes steps aside of loading only. -/
theorem sequel_of_takes (op : Operation) (called : op.callSigns = [])
    (aside : (op.run : ItemRun σ W Unit).Takes ItemRun.Aside)
    (steady : ∀ steps, (op.run.run.run (i, s)).2.2.journal = s.journal ++ steps →
      (∀ step ∈ steps, step.isTurn = false) → (op.leaves i s).outcome = i.outcome) :
    Sequel i (op.signs i s) (op.leaves i s) := by
  obtain ⟨steps, journal, pass⟩ := aside i s
  rw [op.signs_eq journal, called, List.nil_append]
  refine .of_nothing ?_ fun straight => steady steps journal ?_
  · rw [Sign.loadSteps_map]
    exact List.filterMap_eq_nil_iff.2 pass
  · exact fun step member => straight _ (List.mem_map_of_mem member)

end Operation

/-- The course of loading an item, seen in the steps that it takes. -/
theorem LoadCourse.sequel {i j : Item σ W} {s : Session σ W} {r : Except ModelError Unit}
    {steps : List Step} (h : LoadCourse i s r j steps) : Sequel i (steps.map .step) j := by
  cases h with
  | repeated known => exact .of_nothing rfl fun _ => rfl
  | declined fresh refusal aside =>
    refine .of_nothing ?_ fun _ => rfl
    rw [Sign.loadSteps_map]
    exact List.filterMap_eq_nil_iff.2 aside
  | @tried k id asked steps r fresh loadable named aside attempt =>
    refine ⟨?_, nofun, fun known => absurd fresh known, fun known => absurd fresh known⟩
    rw [Sign.loadSteps_map, List.filterMap_append, List.filterMap_eq_nil_iff.2 aside]
    exact attempt.isPrefix_inOrder.isInfix

theorem Operation.sequel (op : Operation) (i : Item σ W) (s : Session σ W) :
    Sequel i (op.signs i s) (op.leaves i s) := by
  have outcome := op.ends_run i s
  cases op with
  | set name v =>
    exact sequel_of_takes _ rfl (ItemRun.takes_perform _) fun _ _ _ => outcome.1.outcome_eq
  | call name args =>
    refine sequel_of_takes _ rfl ?_ fun _ _ _ => outcome.1.outcome_eq
    exact ItemRun.takes_bind (ItemRun.takes_perform _) fun _ => ItemRun.takes_pure _
  | validate =>
    refine sequel_of_takes _ rfl ?_ fun _ _ _ => outcome.1.rewritten.outcome_eq
    exact ItemRun.takes_bind ItemRun.takes_validate fun _ => ItemRun.takes_pure _
  | save =>
    exact sequel_of_takes _ rfl ItemRun.takes_save fun _ => Saving.outcome_eq outcome
  | remove =>
    exact sequel_of_takes _ rfl ItemRun.takes_remove fun _ => Removing.outcome_eq outcome
  | load =>
    obtain ⟨steps, course, journal⟩ := ItemRun.ends_load_course i s
    rw [load.signs_eq journal]
    exact course.sequel
  | reload =>
    obtain ⟨steps, course, journal⟩ := ItemRun.ends_load_course (i.withOutcome none) s
    have seen : reload.signs i s = .reload :: steps.map .step := reload.signs_eq journal
    have after : Sequel (i.withOutcome none) (steps.map .step) (reload.leaves i s) := course.sequel
    rw [seen]
    -- The call is a turn, so there are no signs before the first turn.
    refine ⟨after.inOrder, after.untried, ?_, ?_⟩
    · rintro - l part straight
      cases l with
      | nil => rfl
      | cons sign rest =>
        obtain ⟨rfl, -⟩ := List.cons_prefix_cons.1 part
        exact absurd (straight _ (.head _)) (by simp [Sign.isTurn])
    · exact fun _ straight => absurd (straight _ (.head _)) (by simp [Sign.isTurn])

/-! ## Runs -/

section Runs

variable {i : Item σ W}

/-- As long as there is no turn, an item remembers the outcome. -/
theorem outcome_after (known : i.outcome ≠ none) (ops : List (Operation × Session σ W))
    (straight : Sign.Straight (i.signs ops)) : (i.after ops).outcome = i.outcome := by
  induction ops generalizing i with
  | nil => rfl
  | cons op rest ih =>
    obtain ⟨first, later⟩ := Sign.straight_append.1 straight
    have same := (op.1.sequel i op.2).steady known first
    exact (ih (same ▸ known) later).trans same

/-- Meanwhile it is not loaded. -/
theorem loadSteps_eq_nil (known : i.outcome ≠ none) (ops : List (Operation × Session σ W))
    {l : List Sign} (part : l <+: i.signs ops) (straight : Sign.Straight l) :
    Sign.loadSteps l = [] := by
  induction ops generalizing i l with
  | nil => rw [List.prefix_nil.1 part]; rfl
  | cons op rest ih =>
    have sequel := op.1.sequel i op.2
    obtain ⟨tail, whole⟩ := part
    rcases List.append_eq_append_iff.1 whole with ⟨more, first, -⟩ | ⟨l', rfl, second⟩
    · exact sequel.silent known l ⟨more, first.symm⟩ straight
    · obtain ⟨before, after⟩ := Sign.straight_append.1 straight
      have same := sequel.steady known before
      rw [Sign.loadSteps_append, sequel.silent known _ List.prefix_rfl before,
        ih (same ▸ known) ⟨tail, second.symm⟩ after]
      rfl

/-- Between two turns there is one attempt to load an item at most. -/
theorem isInfix_signs (i : Item σ W) (ops : List (Operation × Session σ W)) {l : List Sign}
    (part : l <:+: i.signs ops) (straight : Sign.Straight l) :
    Sign.loadSteps l <:+: LoadStep.inOrder := by
  induction ops generalizing i l with
  | nil => rw [List.infix_nil.1 part]; exact List.nil_infix
  | cons op rest ih =>
    have sequel := op.1.sequel i op.2
    rcases List.infix_append_iff.1 part with here | later | ⟨l₁, l₂, rfl, ends, begins⟩
    · exact (here.filterMap Sign.loadStep?).trans sequel.inOrder
    · exact ih _ later straight
    · obtain ⟨before, after⟩ := Sign.straight_append.1 straight
      have inFirst := ends.filterMap Sign.loadStep?
      rw [Sign.loadSteps_append]
      -- The attempt was made by the first operation, or is made by the others.
      by_cases tried : (op.1.leaves i op.2).outcome = none
      · have nothing : Sign.loadSteps l₁ = [] :=
          List.suffix_nil.1 (sequel.untried tried ▸ inFirst)
        rw [nothing]
        exact ih _ begins.isInfix after
      · rw [loadSteps_eq_nil tried rest begins after, List.append_nil]
        exact inFirst.isInfix.trans sequel.inOrder

end Runs

/-! ## Loading -/

namespace Operation

/-- The item from which loading starts, if the operation is to load it. -/
def loadsFrom? : Operation → Item σ W → Option (Item σ W)
  | .load, i => some i
  | .reload, i => some (i.withOutcome none)
  | _, _ => none

/-- The operation is to load the item, which remembers an outcome or passes the checks. -/
def Loads (op : Operation) (i : Item σ W) : Prop :=
  ∃ start, op.loadsFrom? i = some start ∧ (start.outcome = none → start.IsLoadable)

variable {op : Operation} {i start : Item σ W}

theorem ends_of_loadsFrom? (h : op.loadsFrom? i = some start) {s : Session σ W}
    {Q : Except ModelError Unit → Item σ W → Session σ W → Prop}
    (load : ItemRun.load.Ends Q start s) : op.run.Ends Q i s := by
  cases op with
  | load =>
    obtain rfl := Option.some.inj h
    exact load
  | reload =>
    obtain rfl := Option.some.inj h
    exact load
  | _ => exact nomatch h

/-- The item remembers how loading it has ended. -/
theorem Loads.outcome_eq (h : op.Loads i) (s : Session σ W) :
    (op.leaves i s).outcome = some (op.run.run.run (i, s)).1 := by
  obtain ⟨start, starts, passes⟩ := h
  refine ends_of_loadsFrom? starts (Q := fun r j _ => j.outcome = some r) ?_
  refine ItemRun.ends_mono (ItemRun.ends_load_course start s) ?_
  rintro r j t ⟨steps, course, -⟩
  cases course with
  | repeated known => exact known
  | declined fresh refusal aside => exact absurd (passes fresh) refusal
  | tried fresh loadable named aside attempt => rfl

end Operation

/-- If code or the store fails before the item has adopted a record, the attempt fails in the same
way, and leaves the item as the code did. -/
theorem Attempt.of_error {i j k : Item σ W} {id : Uuid} {notes notes' : σ} {store : W}
    {r allowed : Except ModelError Unit} {steps : List Step} {e : ModelError}
    (h : Attempt i id notes store r k steps)
    (before : i.respond .beforeLoad notes = (allowed, j, notes'))
    (failed : (allowed >>= fun _ => (j.readUnder id store).mapError .storage) = .error e) :
    r = .error e ∧ k = j := by
  cases h with
  | prevented other =>
    cases other.symm.trans before
    exact ⟨congrArg _ (Except.error.inj failed), rfl⟩
  | refused other answer =>
    cases other.symm.trans before
    rw [answer] at failed
    exact ⟨congrArg _ (Except.error.inj failed), rfl⟩
  | adopted other answer after =>
    cases other.symm.trans before
    rw [answer] at failed
    exact nomatch failed

/-- An item without an outcome that passes the checks is loaded by an attempt. -/
theorem ItemRun.ends_load_attempt {i : Item σ W} {id : Uuid} (fresh : i.outcome = none)
    (loadable : i.IsLoadable) (named : i.id = some id) (s : Session σ W) :
    load.Ends (fun r k _ => ∃ j steps, Attempt i id s.notes s.store r j steps ∧
      k = j.withOutcome (some r)) i s := by
  refine ends_mono (ends_load_course i s) ?_
  rintro r j t ⟨steps, course, -⟩
  cases course with
  | repeated known => exact absurd (known.symm.trans fresh) (by simp)
  | declined fresh refusal aside => exact absurd loadable refusal
  | tried fresh loadable bound aside attempt =>
    obtain rfl := Option.some.inj (named.symm.trans bound)
    exact ⟨_, _, attempt, rfl⟩

/-- How loading goes over operations on an item of any model, with anything happening in the session
between them. Between two turns, which are calls of `reload` and records that were written or
removed, there are no other steps of loading than those of one attempt: the record is read at most
once, and the code before and the code after that run at most once. Once the item was to be loaded
and passed the checks for it, loading it again before the next turn has the same result, and changes
neither the item nor the session. If code fails before the record is read, or the record is not
given, then loading fails, and leaves the item as the code did, but for the outcome. -/
theorem loading_protocol (i : Item σ W) :
    (∀ ops l, l <:+: i.signs ops → Sign.Straight l →
      Sign.loadSteps l <:+: [.before, .read, .after]) ∧
    (∀ (op : Operation) s between t, op.Loads i →
      Sign.Straight ((op.leaves i s).signs between) →
      ItemRun.load.Ends (fun r k u => r = (op.run.run.run (i, s)).1 ∧
        k = (op.leaves i s).after between ∧ u = t) ((op.leaves i s).after between) t) ∧
    (∀ (op : Operation) (s : Session σ W) start id allowed j notes e, op.loadsFrom? i = some start →
      start.outcome = none → start.IsLoadable → start.id = some id →
      start.respond .beforeLoad s.notes = (allowed, j, notes) →
      (allowed >>= fun _ => (j.readUnder id s.store).mapError .storage) = .error e →
      op.run.Ends (fun r k _ => r = .error e ∧ k = j.withOutcome (some (.error e))) i s) := by
  refine ⟨fun ops l part straight => isInfix_signs i ops part straight, ?_, ?_⟩
  · intro op s between t loads straight
    have known := loads.outcome_eq s
    have still := outcome_after (by simp [known]) between straight
    exact ItemRun.ends_load_known (still.trans known) t
  · intro op s start id allowed j notes e loading fresh loadable named before failed
    refine Operation.ends_of_loadsFrom? loading ?_
    refine ItemRun.ends_mono (ItemRun.ends_load_attempt fresh loadable named s) ?_
    rintro r _ t ⟨k, steps, attempt, rfl⟩
    obtain ⟨rfl, rfl⟩ := attempt.of_error before failed
    exact ⟨rfl, rfl⟩

/-! A note that is loaded, gets another title, and is loaded again when its record is gone; and one
that is not found. -/

/-- Notes are marked before they are loaded. -/
def markedDraft : Draft Unit :=
  { properties := [("title", {})]
    hooks := [("beforeLoad", some (.set "title" (.string "seen") fun _ => .done ()))] }

/-- The model of notes that are marked. -/
def markedModel : Model Unit Memory :=
  (Model.compile { adapter := Memory.adapter 1 true } 1 "Note" markedDraft
    (.root { adapter := Memory.adapter 1 true }) none).toOption.get (by decide +kernel)

/-- A note that has just been made. -/
def newNote : Item Unit Memory := .create markedModel (some noteId) none none

/-- The note after it was marked. -/
def markedNote : Item Unit Memory := (newNote.respond .beforeLoad ()).2.1

/-- A session without the stored note. -/
def goneSession : Session Unit Memory := { noteSession with store := {} }

/-- The title of a note is changed. -/
def retitle : List (Operation × Session Unit Memory) :=
  [(.set "title" (.string "new"), noteSession)]

theorem loading_protocol_newNote :
    Sign.loadSteps (newNote.signs ((.load, noteSession) :: retitle ++ [(.load, goneSession)])) <:+:
        [.before, .read, .after] ∧
      ItemRun.load.Ends (fun r k t => r = .ok () ∧
        k = (Operation.load.leaves newNote noteSession).after retitle ∧ t = goneSession)
          ((Operation.load.leaves newNote noteSession).after retitle) goneSession ∧
      markedNote.hasChanged = true ∧
      ItemRun.load.Ends (fun r k _ => ∃ e, r = .error (.storage e) ∧
        k = markedNote.withOutcome (some r)) newNote goneSession := by
  obtain ⟨once, again, failed⟩ := loading_protocol newNote
  have loadable : newNote.IsLoadable := by
    refine ⟨by decide +kernel, fun changed => absurd changed (by decide +kernel)⟩
  have loads : Operation.load.Loads newNote := ⟨newNote, rfl, fun _ => loadable⟩
  refine ⟨?_, ?_, by decide +kernel, ?_⟩
  · exact once _ _ List.infix_rfl (by decide +kernel)
  · have loaded : (Operation.load.run.run.run (newNote, noteSession)).1 = .ok () := by rfl
    rw [← loaded]
    exact again .load noteSession retitle goneSession loads (by decide +kernel)
  · refine ItemRun.ends_mono (failed .load goneSession newNote noteId (.ok ()) markedNote ()
      (.storage (.notFound (markedModel.keys.key noteId))) rfl rfl loadable rfl rfl (by rfl)) ?_
    rintro r k t ⟨rfl, rfl⟩
    exact ⟨_, rfl, rfl⟩

end EntityStore
