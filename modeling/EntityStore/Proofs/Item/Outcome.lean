import EntityStore.Item.Lifecycle
import EntityStore.Proofs.Item.Code

set_option autoImplicit false

/-! # What operations on items come to

Every operation on an item ends in one of a few ways, and each of them is described by the item and
the session it leaves behind: `Saving`, `Removing` and `Loading` list the ways with all that happens
on them, and `ends_save`, `ends_remove` and `ends_load` say that there are no others. Whatever holds
of runs of operations is shown from these lists, without looking into the operations again.

Between the steps that ask the store, only events happen: their code may rewrite the item
(`Item.AfterEvents`), and the session gets other notes and more entries in its journal
(`Session.Quiet`). -/

namespace EntityStore

variable {σ W α β : Type}

/-! ## Quiet steps -/

/-- Whether a step asks neither the store nor an index. -/
def Step.isQuiet : Step → Bool
  | .conflict | .warning _ | .event _ | .check => true
  | .read .. | .write .. | .purge .. | .index | .unindex => false

/-- One session is the other one with other notes, and after quiet steps. -/
def Session.Quiet (s t : Session σ W) : Prop :=
  ∃ steps notes, (∀ step ∈ steps, step.isQuiet = true) ∧
    t = { s with notes, journal := s.journal ++ steps }

namespace Session.Quiet

theorem refl (s : Session σ W) : s.Quiet s := ⟨[], s.notes, by simp, by simp⟩

theorem trans {s t u : Session σ W} (h : s.Quiet t) (h' : t.Quiet u) : s.Quiet u := by
  obtain ⟨steps, notes, quiet, rfl⟩ := h
  obtain ⟨steps', notes', quiet', rfl⟩ := h'
  refine ⟨steps ++ steps', notes', ?_, by simp⟩
  intro step hs
  rcases List.mem_append.1 hs with hs | hs
  · exact quiet step hs
  · exact quiet' step hs

theorem log {s : Session σ W} {step : Step} (h : step.isQuiet = true) : s.Quiet (s.log step) :=
  ⟨[step], s.notes, by simpa using h, rfl⟩

theorem withNotes (s : Session σ W) (notes : σ) : s.Quiet { s with notes } :=
  ⟨[], notes, by simp, by simp⟩

@[grind →]
theorem store_eq {s t : Session σ W} (h : s.Quiet t) : t.store = s.store := by
  obtain ⟨-, -, -, rfl⟩ := h; rfl

@[grind →]
theorem observed_eq {s t : Session σ W} (h : s.Quiet t) : t.observed = s.observed := by
  obtain ⟨-, -, -, rfl⟩ := h; rfl

theorem indicesOf_eq {s t : Session σ W} (h : s.Quiet t) (m : Model σ W) :
    t.indicesOf m = s.indicesOf m := by
  obtain ⟨-, -, -, rfl⟩ := h; rfl

end Session.Quiet

/-! ## The store is asked -/

namespace Item

/-- Read the record of the item under an identity. -/
def readUnder (i : Item σ W) (id : Uuid) (store : W) : Except StorageError Record :=
  i.adapter.read (i.model.keys.key id) store

/-- Write the record of the item under an identity. -/
def writeUnder (i : Item σ W) (id : Uuid) (store : W) : Except StorageError Unit × W :=
  i.adapter.write (i.model.keys.key id) (i.model.pipeline.serialize i.adapter.binary i.properties)
    store

/-- Remove the record of the item under an identity. -/
def purgeUnder (i : Item σ W) (id : Uuid) (store : W) : Except StorageError Unit × W :=
  i.adapter.purge (i.model.keys.key id) store

/-- The identity under which the item is saved, and the session after it has been taken. -/
def identityIn (i : Item σ W) (s : Session σ W) : Uuid × Session σ W :=
  match i.id with
  | some id => (id, s)
  | none => s.mint

/-- The item once its record has been written under an identity. -/
def markSaved (i : Item σ W) (id : Uuid) : Item σ W :=
  { i with id := some id, changes := {}, outcome := some (.ok ()) }

/-- The item with the properties that a record stands for. -/
def adopt (i : Item σ W) (record : Record) : Item σ W :=
  { i with properties := i.model.pipeline.deserialize record, changes := {} }

/-- The item with another memory of how loading ended. -/
def withOutcome (i : Item σ W) (outcome : Option (Except ModelError Unit)) : Item σ W :=
  { i with outcome }

end Item

namespace Session

/-- The session after a write of an item under an identity. -/
def afterWrite (s : Session σ W) (i : Item σ W) (id : Uuid) : Session σ W :=
  { s with store := (i.writeUnder id s.store).2 }.log
    (.write i.model.handle id i.properties (i.writeUnder id s.store).1.isOk)

/-- The session after the record of an item has been removed under an identity. -/
def afterPurge (s : Session σ W) (i : Item σ W) (id : Uuid) : Session σ W :=
  { s with store := (i.purgeUnder id s.store).2 }.log
    (.purge i.model.handle id (i.purgeUnder id s.store).1.isOk)

/-- The session after the record of an item has been read under an identity. -/
def afterRead (s : Session σ W) (i : Item σ W) (id : Uuid) : Session σ W :=
  s.log (.read i.model.handle id (i.readUnder id s.store).toOption)

end Session

/-! ## The ways in which operations end -/

/-- How saving an item ends: with which result, and with which item and session. -/
inductive Saving (i : Item σ W) (s : Session σ W) :
    Except ModelError Unit → Item σ W → Session σ W → Prop
  /-- A conflict, code or a violated constraint ends it before the write. -/
  | stopped {j : Item σ W} {t : Session σ W} (e : ModelError) (events : i.AfterEvents j)
      (quiet : s.Quiet t) : Saving i s (.error e) j t
  /-- The store refuses the record. -/
  | refused {checked j : Item σ W} {t : Session σ W} (e : StorageError)
      (before : i.AfterEvents checked)
      (valid : checked.model.pipeline.violations checked.properties = [])
      (events : checked.AfterEvents j) (quiet : s.Quiet t)
      (answer : (j.writeUnder (j.identityIn t).1 (j.identityIn t).2.store).1 = .error e) :
      Saving i s (.error (.storage e)) j ((j.identityIn t).2.afterWrite j (j.identityIn t).1)
  /-- The record is written; code that runs after that decides about the result. -/
  | written {checked j k : Item σ W} {t u : Session σ W} (result : Except ModelError Unit)
      (before : i.AfterEvents checked)
      (valid : checked.model.pipeline.violations checked.properties = [])
      (events : checked.AfterEvents j) (quiet : s.Quiet t)
      (answer : (j.writeUnder (j.identityIn t).1 (j.identityIn t).2.store).1 = .ok ())
      (after : (j.markSaved (j.identityIn t).1).AfterEvents k)
      (quiet' : ((((j.identityIn t).2.afterWrite j (j.identityIn t).1).log .index).updateIndices
        j.model (j.identityIn t).1 j.properties).Quiet u) :
      Saving i s result k u

/-- How removing the record of an item ends. -/
inductive Removing (i : Item σ W) (s : Session σ W) :
    Except ModelError Unit → Item σ W → Session σ W → Prop
  /-- The item has no identity, or code ends it before the record is removed. -/
  | stopped {j : Item σ W} {t : Session σ W} (e : ModelError) (events : i.AfterEvents j)
      (quiet : s.Quiet t) : Removing i s (.error e) j t
  /-- The store refuses to remove the record. -/
  | refused {j : Item σ W} {t : Session σ W} {id : Uuid} (e : StorageError)
      (named : i.id = some id) (events : i.AfterEvents j) (quiet : s.Quiet t)
      (answer : (j.purgeUnder id t.store).1 = .error e) :
      Removing i s (.error (.storage e)) j (t.afterPurge j id)
  /-- The record is removed; code that runs after that decides about the result. -/
  | removed {j k : Item σ W} {t u : Session σ W} {id : Uuid} (result : Except ModelError Unit)
      (named : i.id = some id) (events : i.AfterEvents j) (quiet : s.Quiet t)
      (answer : (j.purgeUnder id t.store).1 = .ok ())
      (after : (j.withOutcome none).AfterEvents k)
      (quiet' : (((t.afterPurge j id).log .unindex).removeFromIndices j.model id).Quiet u) :
      Removing i s result k u

/-- How loading an item that does not remember an outcome ends, apart from remembering it. -/
inductive Reading (i : Item σ W) (s : Session σ W) (id : Uuid) :
    Except ModelError Unit → Item σ W → Session σ W → Prop
  /-- Code ends it before the record is read. -/
  | stopped {j : Item σ W} {t : Session σ W} (e : ModelError) (events : i.AfterEvents j)
      (quiet : s.Quiet t) : Reading i s id (.error e) j t
  /-- The store does not give a record. -/
  | refused {j : Item σ W} {t : Session σ W} (e : StorageError) (events : i.AfterEvents j)
      (quiet : s.Quiet t) (answer : j.readUnder id t.store = .error e) :
      Reading i s id (.error (.storage e)) j (t.afterRead j id)
  /-- The item adopts the record; code that runs after that decides about the result. -/
  | adopted {j k : Item σ W} {t u : Session σ W} {record : Record}
      (result : Except ModelError Unit) (events : i.AfterEvents j) (quiet : s.Quiet t)
      (answer : j.readUnder id t.store = .ok record) (after : (j.adopt record).AfterEvents k)
      (quiet' : (t.afterRead j id).Quiet u) : Reading i s id result k u

/-- How loading an item ends. -/
inductive Loading (i : Item σ W) (s : Session σ W) :
    Except ModelError Unit → Item σ W → Session σ W → Prop
  /-- The outcome that the item remembers is repeated. -/
  | repeated (result : Except ModelError Unit) (known : i.outcome = some result) :
      Loading i s result i s
  /-- The item has no identity, or there is a conflict. -/
  | stopped {t : Session σ W} (e : ModelError) (fresh : i.outcome = none) (quiet : s.Quiet t) :
      Loading i s (.error e) i t
  /-- The record is read, or that is tried, and the outcome remembered. -/
  | tried {j : Item σ W} {t u : Session σ W} {id : Uuid} (result : Except ModelError Unit)
      (fresh : i.outcome = none) (named : i.id = some id) (quiet : s.Quiet t)
      (reading : Reading i t id result j u) : Loading i s result (j.withOutcome (some result)) u

/-! ## What operations keep of an item -/

/-- A property that an item keeps whatever is done with it. -/
structure Item.Kept (P : Item σ W → Prop) : Prop where
  /-- Code keeps it. -/
  rewritten : ∀ {i j}, P i → i.Rewritten j → P j
  /-- Reading a record keeps it. -/
  adopt : ∀ {i} record, P i → P (i.adopt record)
  /-- Writing a record keeps it. -/
  markSaved : ∀ {i} (s : Session σ W), P i → P (i.markSaved (i.identityIn s).1)
  /-- Remembering or forgetting how loading ended keeps it. -/
  withOutcome : ∀ {i} outcome, P i → P (i.withOutcome outcome)

theorem Item.kept_model (m : Model σ W) : Item.Kept (σ := σ) (W := W) (·.model = m) where
  rewritten h steps := steps.model_eq.trans h
  adopt _ h := h
  markSaved _ h := h
  withOutcome _ h := h

theorem Item.kept_adapter (a : Adapter W) : Item.Kept (σ := σ) (W := W) (·.adapter = a) where
  rewritten h steps := steps.adapter_eq.trans h
  adopt _ h := h
  markSaved _ h := h
  withOutcome _ h := h

theorem Item.identityIn_eq {i : Item σ W} {id : Uuid} (h : i.id = some id) (s : Session σ W) :
    i.identityIn s = (id, s) := by
  unfold identityIn
  rw [h]

/-- An item that is bound to an identity stays bound to it. -/
theorem Item.kept_id (id : Uuid) : Item.Kept (σ := σ) (W := W) (·.id = some id) where
  rewritten h steps := steps.id_eq.trans h
  adopt _ h := h
  markSaved s h := by
    rw [identityIn_eq h]
    rfl
  withOutcome _ h := h

section Keeps

variable {P : Item σ W → Prop} {i j : Item σ W} {s t : Session σ W} {r : Except ModelError Unit}

theorem Saving.keeps (h : Saving i s r j t) (kept : Item.Kept P) (hi : P i) : P j := by
  cases h with
  | stopped e events quiet => exact kept.rewritten hi events.rewritten
  | refused e before valid events quiet answer =>
    exact kept.rewritten hi (before.trans events).rewritten
  | @written _ _ _ u _ r before valid events quiet answer after quiet' =>
    have saved := kept.markSaved u (kept.rewritten hi (before.trans events).rewritten)
    exact kept.rewritten saved after.rewritten

theorem Removing.keeps (h : Removing i s r j t) (kept : Item.Kept P) (hi : P i) : P j := by
  cases h with
  | stopped e events quiet => exact kept.rewritten hi events.rewritten
  | refused e named events quiet answer => exact kept.rewritten hi events.rewritten
  | removed r named events quiet answer after quiet' =>
    have forgot := kept.withOutcome none (kept.rewritten hi events.rewritten)
    exact kept.rewritten forgot after.rewritten

theorem Reading.keeps {id : Uuid} (h : Reading i s id r j t) (kept : Item.Kept P) (hi : P i) :
    P j := by
  cases h with
  | stopped e events quiet => exact kept.rewritten hi events.rewritten
  | refused e events quiet answer => exact kept.rewritten hi events.rewritten
  | @adopted _ _ _ _ record r events quiet answer after quiet' =>
    have adopted := kept.adopt record (kept.rewritten hi events.rewritten)
    exact kept.rewritten adopted after.rewritten

theorem Loading.keeps (h : Loading i s r j t) (kept : Item.Kept P) (hi : P i) : P j := by
  cases h with
  | repeated r known => exact hi
  | stopped e fresh quiet => exact hi
  | tried r fresh named quiet reading => exact kept.withOutcome _ (reading.keeps kept hi)

end Keeps

/-! ## What operations keep of a session -/

/-- The item after events, between which its properties met all constraints. -/
def Item.Checked (i j : Item σ W) : Prop :=
  ∃ checked : Item σ W, i.AfterEvents checked ∧
    checked.model.pipeline.violations checked.properties = [] ∧ checked.AfterEvents j

theorem Item.Checked.rewritten {i j : Item σ W} (h : i.Checked j) : i.Rewritten j := by
  obtain ⟨checked, before, -, events⟩ := h
  exact (before.trans events).rewritten

/-- A property that a session keeps whatever is done with an item that has a property of its
own. -/
structure Session.Kept (P : Item σ W → Prop) (K : Session σ W → Prop) : Prop where
  /-- Quiet steps keep it. -/
  quiet : ∀ {s t}, K s → s.Quiet t → K t
  /-- Taking an identity keeps it. -/
  mint : ∀ {s}, K s → K s.mint.2
  /-- Reading a record keeps it. -/
  read : ∀ {s} (i : Item σ W) id, K s → K (s.afterRead i id)
  /-- Writing a record and updating the indices together keep it. -/
  write : ∀ {s i j} id, P i → i.Checked j → K s → (j.writeUnder id s.store).1 = .ok () →
    K (((s.afterWrite j id).log .index).updateIndices j.model id j.properties)
  /-- A failure to write a record keeps it. -/
  writeRefused : ∀ {s i j e} id, P i → i.Checked j → K s →
    (j.writeUnder id s.store).1 = .error e → K (s.afterWrite j id)
  /-- Removing a record and its entries in the indices together keep it. -/
  purge : ∀ {s i j} id, P i → i.AfterEvents j → K s → (j.purgeUnder id s.store).1 = .ok () →
    K (((s.afterPurge j id).log .unindex).removeFromIndices j.model id)
  /-- A failure to remove a record keeps it. -/
  purgeRefused : ∀ {s i j e} id, P i → i.AfterEvents j → K s →
    (j.purgeUnder id s.store).1 = .error e → K (s.afterPurge j id)

section KeepsSession

variable {P : Item σ W → Prop} {K : Session σ W → Prop} {i j : Item σ W} {s t : Session σ W}
  {r : Except ModelError Unit} (kept : Session.Kept P K)
include kept

theorem Session.Kept.identityIn (hs : K s) (i : Item σ W) : K (i.identityIn s).2 := by
  unfold Item.identityIn
  cases i.id with
  | some id => exact hs
  | none => exact kept.mint hs

theorem Saving.keepsSession (h : Saving i s r j t) (hi : P i) (hs : K s) : K t := by
  cases h with
  | stopped e events quiet => exact kept.quiet hs quiet
  | refused e before valid events quiet answer =>
    have ready := kept.identityIn (kept.quiet hs quiet) j
    exact kept.writeRefused _ hi ⟨_, before, valid, events⟩ ready answer
  | @written checked k _ _ _ r before valid events quiet answer after quiet' =>
    have ready := kept.identityIn (kept.quiet hs quiet) k
    have written := kept.write _ hi ⟨_, before, valid, events⟩ ready answer
    exact kept.quiet written quiet'

theorem Removing.keepsSession (h : Removing i s r j t) (hi : P i) (hs : K s) : K t := by
  cases h with
  | stopped e events quiet => exact kept.quiet hs quiet
  | refused e named events quiet answer =>
    exact kept.purgeRefused _ hi events (kept.quiet hs quiet) answer
  | removed r named events quiet answer after quiet' =>
    have removed := kept.purge _ hi events (kept.quiet hs quiet) answer
    exact kept.quiet removed quiet'

theorem Reading.keepsSession {id : Uuid} (h : Reading i s id r j t) (hs : K s) : K t := by
  cases h with
  | stopped e events quiet => exact kept.quiet hs quiet
  | refused e events quiet answer => exact kept.read _ id (kept.quiet hs quiet)
  | adopted r events quiet answer after quiet' =>
    exact kept.quiet (kept.read _ id (kept.quiet hs quiet)) quiet'

theorem Loading.keepsSession (h : Loading i s r j t) (hs : K s) : K t := by
  cases h with
  | repeated r known => exact hs
  | stopped e fresh quiet => exact kept.quiet hs quiet
  | tried r fresh named quiet reading => exact reading.keepsSession kept (kept.quiet hs quiet)

end KeepsSession

/-! ## What operations do to the store -/

/-- Quiet steps and code do not change the identity under which an item is saved. -/
theorem Item.identityIn_after {i j : Item σ W} {s t : Session σ W} (steps : i.Rewritten j)
    (quiet : s.Quiet t) :
    (j.identityIn t).1 = (i.identityIn s).1 ∧ (j.identityIn t).2.store = s.store := by
  obtain ⟨-, -, -, rfl⟩ := quiet
  unfold identityIn
  rw [steps.id_eq]
  cases i.id <;> exact ⟨rfl, rfl⟩

section Stores

variable {i j : Item σ W} {s t : Session σ W} {r : Except ModelError Unit}

/-- Saving leaves the store as it is, or writes the item as code for events leaves it. -/
theorem Saving.store_cases (h : Saving i s r j t) : t.store = s.store ∨
    ∃ k, i.AfterEvents k ∧ t.store = (k.writeUnder (i.identityIn s).1 s.store).2 := by
  cases h with
  | stopped e events quiet => exact .inl quiet.store_eq
  | @refused checked j u e before valid events quiet answer =>
    obtain ⟨named, same⟩ := Item.identityIn_after (before.trans events).rewritten quiet
    refine .inr ⟨j, before.trans events, ?_⟩
    rw [← named, ← same]
    rfl
  | @written checked k _ u _ r before valid events quiet answer after quiet' =>
    obtain ⟨named, same⟩ := Item.identityIn_after (before.trans events).rewritten quiet
    refine .inr ⟨k, before.trans events, ?_⟩
    rw [quiet'.store_eq, ← named, ← same]
    rfl

/-- Removing leaves the store as it is, or removes the record of the item. -/
theorem Removing.store_cases (h : Removing i s r j t) : t.store = s.store ∨
    ∃ k id, i.AfterEvents k ∧ i.id = some id ∧ t.store = (k.purgeUnder id s.store).2 := by
  cases h with
  | stopped e events quiet => exact .inl quiet.store_eq
  | @refused j u id e named events quiet answer =>
    refine .inr ⟨j, id, events, named, ?_⟩
    rw [← quiet.store_eq]
    rfl
  | @removed k _ u _ id r named events quiet answer after quiet' =>
    refine .inr ⟨k, id, events, named, ?_⟩
    rw [quiet'.store_eq, ← quiet.store_eq]
    rfl

end Stores

namespace ItemRun

/-! ## Ends of operations -/

/-- Started on an item within a session, the operation ends with a result, an item and a session
that pass a test. -/
def Ends (x : ItemRun σ W α) (Q : Except ModelError α → Item σ W → Session σ W → Prop)
    (i : Item σ W) (s : Session σ W) : Prop :=
  Q (x.run.run (i, s)).1 (x.run.run (i, s)).2.1 (x.run.run (i, s)).2.2

variable {i : Item σ W} {s : Session σ W}

/-- One operation after the other runs as the first one, and as the second one if that did not
fail. -/
@[simp]
theorem run_bind (x : ItemRun σ W α) (f : α → ItemRun σ W β) (i : Item σ W) (s : Session σ W) :
    (x >>= f).run.run (i, s) = match x.run.run (i, s) with
      | (.ok a, st) => (f a).run.run st
      | (.error e, st) => (.error e, st) := by
  rw [ExceptT.run_bind, StateT.run_bind]
  rcases x.run.run (i, s) with ⟨_ | _, _⟩ <;> rfl

theorem ends_bind {x : ItemRun σ W α} {f : α → ItemRun σ W β}
    {P : Except ModelError α → Item σ W → Session σ W → Prop}
    {Q : Except ModelError β → Item σ W → Session σ W → Prop} (hx : x.Ends P i s)
    (ok : ∀ a j t, P (.ok a) j t → (f a).Ends Q j t)
    (error : ∀ e j t, P (.error e) j t → Q (.error e) j t) : (x >>= f).Ends Q i s := by
  unfold Ends at hx ⊢
  rw [run_bind]
  rcases hr : x.run.run (i, s) with ⟨e | a, j, t⟩
  · exact error e j t (by simpa [hr] using hx)
  · exact ok a j t (by simpa [hr] using hx)

theorem ends_mono {x : ItemRun σ W α} {P Q : Except ModelError α → Item σ W → Session σ W → Prop}
    (hx : x.Ends P i s) (h : ∀ r j t, P r j t → Q r j t) : x.Ends Q i s := h _ _ _ hx

/-- An operation under a condition, and then another one. -/
theorem ends_when {c : Bool} {x : ItemRun σ W Unit} {f : Unit → ItemRun σ W β}
    {P : Except ModelError Unit → Item σ W → Session σ W → Prop}
    {Q : Except ModelError β → Item σ W → Session σ W → Prop} (hx : c = true → x.Ends P i s)
    (skip : c = false → P (.ok ()) i s) (ok : ∀ j t, P (.ok ()) j t → (f ()).Ends Q j t)
    (error : ∀ e j t, P (.error e) j t → Q (.error e) j t) :
    (if c = true then x >>= f else f ()).Ends Q i s := by
  split
  · next h => exact ends_bind (hx h) (fun _ => ok) error
  · next h => exact ok i s (skip (by simpa using h))

section Steps

variable {Q : Except ModelError β → Item σ W → Session σ W → Prop}

@[simp]
theorem ends_item_bind (f : Item σ W → ItemRun σ W β) :
    (item >>= f).Ends Q i s ↔ (f i).Ends Q i s := Iff.rfl

@[simp]
theorem ends_get_bind (f : Item σ W × Session σ W → ItemRun σ W β) :
    ((get : ItemRun σ W _) >>= f).Ends Q i s ↔ (f (i, s)).Ends Q i s := Iff.rfl

@[simp]
theorem ends_set_bind (st : Item σ W × Session σ W) (f : PUnit → ItemRun σ W β) :
    ((set st : ItemRun σ W PUnit) >>= f).Ends Q i s ↔ (f ⟨⟩).Ends Q st.1 st.2 := Iff.rfl

@[simp]
theorem ends_modify_bind (g : Item σ W × Session σ W → Item σ W × Session σ W)
    (f : PUnit → ItemRun σ W β) : ((modify g : ItemRun σ W PUnit) >>= f).Ends Q i s ↔
      (f ⟨⟩).Ends Q (g (i, s)).1 (g (i, s)).2 := Iff.rfl

@[simp]
theorem ends_modifyItem_bind (g : Item σ W → Item σ W) (f : Unit → ItemRun σ W β) :
    (modifyItem g >>= f).Ends Q i s ↔ (f ()).Ends Q (g i) s := Iff.rfl

@[simp]
theorem ends_note_bind (step : Step) (f : Unit → ItemRun σ W β) :
    (note step >>= f).Ends Q i s ↔ (f ()).Ends Q i (s.log step) := Iff.rfl

/-- With an identity the item goes on, without one it fails. -/
theorem ends_identity_bind (f : Uuid → ItemRun σ W β) :
    (identity >>= f).Ends Q i s ↔ match i.id with
      | some id => (f id).Ends Q i s
      | none => Q (.error (.notBound i.model.name)) i s := by
  show ((match i.id with
    | some id => pure id
    | none => throw (.notBound i.model.name) : ItemRun σ W Uuid) >>= f).Ends Q i s ↔ _
  cases i.id <;> exact Iff.rfl

end Steps

/-! ## Steps between the ones that ask the store -/

/-- Only events have happened to the item, and the session is quiet. -/
def Eventful (i : Item σ W) (s : Session σ W) (_ : Except ModelError α) (j : Item σ W)
    (t : Session σ W) : Prop := i.AfterEvents j ∧ s.Quiet t

theorem Eventful.trans {j k : Item σ W} {t u : Session σ W} {r : Except ModelError α}
    {r' : Except ModelError β} (h : Eventful i s r j t) (h' : Eventful j t r' k u) :
    Eventful i s r' k u := ⟨h.1.trans h'.1, h.2.trans h'.2⟩

/-- Running code leaves the item and the notes as the code leaves them. -/
theorem ends_perform (code : Script σ α) (i : Item σ W) (s : Session σ W) :
    (perform code).Ends (fun r j t => r = (i.runScript code s.notes).1 ∧
      j = (i.runScript code s.notes).2.1 ∧
      t = { s with notes := (i.runScript code s.notes).2.2 }) i s := by
  unfold perform
  rw [ends_get_bind]
  dsimp only
  rw [ends_set_bind]
  cases (i.runScript code s.notes).1 <;> exact ⟨rfl, rfl, rfl⟩

theorem run_perform (code : Script σ α) (i : Item σ W) (s : Session σ W) :
    (perform code).run.run (i, s) = ((i.runScript code s.notes).1, (i.runScript code s.notes).2.1,
      { s with notes := (i.runScript code s.notes).2.2 }) := by
  obtain ⟨result, item, session⟩ := ends_perform code i s
  exact Prod.ext result (Prod.ext item session)

/-- An event is entered into the journal, and its code runs. -/
theorem run_fire (e : LifecycleEvent) (i : Item σ W) (s : Session σ W) :
    (fire e).run.run (i, s) = ((i.runScript (i.model.codeFor e) s.notes).1,
      (i.runScript (i.model.codeFor e) s.notes).2.1,
      { s.log (.event e) with notes := (i.runScript (i.model.codeFor e) s.notes).2.2 }) := by
  show (fire e).Ends (fun r j t => (r, j, t) = _) i s
  unfold fire Model.codeFor
  rw [ends_note_bind, ends_item_bind]
  cases i.model.hook? e with
  | none => rfl
  | some code => exact run_perform code i (s.log (.event e))

theorem ends_fire (e : LifecycleEvent) (i : Item σ W) (s : Session σ W) :
    (fire e).Ends (Eventful i s) i s := by
  unfold Ends
  rw [run_fire]
  refine ⟨?_, .trans (.log rfl) (.withNotes _ _)⟩
  unfold Model.codeFor
  cases h : i.model.hook? e with
  | none => exact .refl
  | some code => exact .single ⟨e, code, _, h, rfl⟩

/-- A decision about a conflict does not touch the item. -/
theorem ends_decideConflict (action : String) (i : Item σ W) (s : Session σ W) :
    (decideConflict action).Ends (fun _ j t => j = i ∧ s.Quiet t) i s := by
  have noted : s.Quiet (s.log .conflict) := .log rfl
  unfold decideConflict
  rw [ends_note_bind, ends_item_bind]
  split
  · exact ⟨rfl, noted⟩
  · exact ⟨rfl, noted.trans (.log rfl)⟩
  · rw [ends_identity_bind]
    split <;> exact ⟨rfl, noted⟩

/-- The constraints are those that the item does not meet between the two events. -/
theorem ends_validate (i : Item σ W) (s : Session σ W) :
    validate.Ends (fun r j t => Eventful i s r j t ∧ ∀ violations, r = .ok violations →
      ∃ checked : Item σ W, i.AfterEvents checked ∧ checked.AfterEvents j ∧
        violations = checked.model.pipeline.violations checked.properties) i s := by
  refine ends_bind (ends_fire .beforeValidate i s) ?_ fun e j t h => ⟨h, nofun⟩
  intro _ checked t before
  rw [ends_note_bind, ends_item_bind]
  refine ends_bind (ends_fire .afterValidate checked (t.log .check)) ?_ ?_
  · intro _ j u after
    refine ⟨before.trans ⟨after.1, .trans (.log rfl) after.2⟩, ?_⟩
    rintro violations ⟨⟩
    exact ⟨checked, before.1, after.1, rfl⟩
  · intro e j u after
    exact ⟨before.trans ⟨after.1, .trans (.log rfl) after.2⟩, nofun⟩

theorem ends_fire_runScript (e : LifecycleEvent) (i : Item σ W) (s : Session σ W) :
    (fire e).Ends (fun r j t => (r, j, t.notes) = i.runScript (i.model.codeFor e) s.notes) i s := by
  unfold Ends
  rw [run_fire]

/-- Code that has an item checked gets what checking the item gives. -/
theorem ends_validate_runScript (i : Item σ W) (s : Session σ W) :
    validate.Ends (fun r j t => (r, j, t.notes) = i.runScript i.model.validation s.notes) i s := by
  unfold Model.validation
  rw [Item.runScript_bind]
  refine ends_bind (ends_fire_runScript .beforeValidate i s) ?_ fun e j t before => by rw [← before]
  intro _ checked t before
  rw [ends_note_bind, ends_item_bind, ← before]
  have model : checked.model = i.model := by
    rw [← (Item.rewritten_runScript (i.model.codeFor .beforeValidate) i s.notes).model_eq, ← before]
  have view (next : ItemView → Script σ (List Violation)) :
      checked.runScript (.inspect next) t.notes = checked.runScript (next checked.view) t.notes :=
    rfl
  have noted : t.notes = (t.log .check).notes := rfl
  dsimp only
  rw [view, Item.runScript_bind, ← model]
  refine ends_bind (ends_fire_runScript .afterValidate checked (t.log .check)) ?_ ?_
  · intro _ j u after
    rw [noted, ← after]
    rfl
  · intro e j u after
    rw [noted, ← after]

/-! ## Saving -/

theorem ends_writeRecord_bind {Q : Except ModelError β → Item σ W → Session σ W → Prop} (id : Uuid)
    (f : Unit → ItemRun σ W β) :
    (writeRecord id >>= f).Ends Q i s ↔ match (i.writeUnder id s.store).1 with
      | .ok () => (f ()).Ends Q i (s.afterWrite i id)
      | .error e => Q (.error (.storage e)) i (s.afterWrite i id) := by
  have writes : writeRecord id = (get >>= fun (st : Item σ W × Session σ W) =>
      (set (st.1, st.2.afterWrite st.1 id) : ItemRun σ W PUnit) >>= fun _ =>
        match (st.1.writeUnder id st.2.store).1 with
        | .ok () => pure ()
        | .error e => throw (.storage e)) := rfl
  rw [writes]
  show ((match (i.writeUnder id s.store).1 with
    | .ok () => pure ()
    | .error e => throw (.storage e) : ItemRun σ W Unit) >>= f).Ends Q i (s.afterWrite i id) ↔ _
  rcases (i.writeUnder id s.store).1 with _ | ⟨⟩ <;> exact Iff.rfl

theorem ends_identityToSave_bind {Q : Except ModelError β → Item σ W → Session σ W → Prop}
    (f : Uuid → ItemRun σ W β) :
    (identityToSave >>= f).Ends Q i s ↔ (f (i.identityIn s).1).Ends Q i (i.identityIn s).2 := by
  unfold identityToSave Item.identityIn
  show ((match i.id with
    | some id => pure id
    | none => set (i, s.mint.2) >>= fun _ => pure s.mint.1 : ItemRun σ W Uuid) >>= f).Ends Q i s ↔ _
  cases i.id <;> exact Iff.rfl

theorem ends_becomeSaved_bind {Q : Except ModelError β → Item σ W → Session σ W → Prop} (id : Uuid)
    (f : Unit → ItemRun σ W β) :
    (becomeSaved id >>= f).Ends Q i s ↔ (f ()).Ends Q (i.markSaved id)
      ((s.log .index).updateIndices i.model id i.properties) := Iff.rfl

/-- What happens once the item counts as saved. -/
theorem ends_afterwards (isNew : Bool) (i : Item σ W) (s : Session σ W) :
    (if isNew = true then fire .afterCreate >>= fun _ => fire .afterSave else fire .afterSave).Ends
      (Eventful i s) i s := by
  refine ends_when (f := fun _ => fire .afterSave) (P := Eventful i s)
    (fun _ => ends_fire .afterCreate i s) (fun _ => ⟨.refl, .refl s⟩) ?_ fun e j t h => h
  intro j t h
  exact ends_mono (ends_fire .afterSave j t) fun r k u h' => h.trans h'

theorem ends_save (i : Item σ W) (s : Session σ W) : save.Ends (Saving i s) i s := by
  have stop {j : Item σ W} {t : Session σ W} {e : ModelError}
      (h : Eventful (α := Unit) i s (.error e) j t) : Saving i s (.error e) j t :=
    .stopped e h.1 h.2
  unfold save
  rw [ends_item_bind]
  -- First the policy decides about a conflict, which leaves the item alone.
  refine ends_when (P := Eventful i s) ?_ (fun _ => ⟨.refl, .refl s⟩) ?_ fun e j t h => stop h
  · intro _
    refine ends_mono (ends_decideConflict "saving" i s) ?_
    rintro r j t ⟨rfl, quiet⟩
    exact ⟨.refl, quiet⟩
  intro i₁ s₁ h₁
  -- Then the properties are checked; violations end it.
  refine ends_bind (ends_validate i₁ s₁) ?_ fun e j t h => stop (h₁.trans h.1)
  rintro violations i₂ s₂ ⟨h₂, hv⟩
  obtain ⟨checked, before, events, rfl⟩ := hv violations rfl
  split
  · exact stop (h₁.trans h₂)
  next hvalid =>
  have valid : checked.model.pipeline.violations checked.properties = [] := by simpa using hvalid
  -- The events before the write may still change the item.
  refine ends_bind (ends_fire .beforeSave i₂ s₂) ?_ fun e j t h => stop (h₁.trans (h₂.trans h))
  intro _ i₃ s₃ h₃
  rw [ends_item_bind]
  refine ends_when (P := Eventful i₃ s₃) (fun _ => ends_fire .beforeCreate i₃ s₃)
    (fun _ => ⟨.refl, .refl s₃⟩) ?_ fun e j t h => stop (h₁.trans (h₂.trans (h₃.trans h)))
  intro j t h₄
  have before' : i.AfterEvents checked := h₁.1.trans before
  have events' : checked.AfterEvents j := events.trans (h₃.1.trans h₄.1)
  have quiet : s.Quiet t := h₁.2.trans (h₂.2.trans (h₃.2.trans h₄.2))
  -- From here on the store decides, and what comes after the write does not undo it.
  rw [ends_identityToSave_bind, ends_writeRecord_bind]
  split
  · next answer =>
    rw [ends_becomeSaved_bind]
    refine ends_mono (ends_afterwards _ _ _) ?_
    intro r k u h
    exact .written r before' valid events' quiet answer h.1 h.2
  · next e answer => exact .refused e before' valid events' quiet answer

/-! ## Removing -/

theorem ends_purgeRecord_bind {Q : Except ModelError β → Item σ W → Session σ W → Prop} (id : Uuid)
    (f : Unit → ItemRun σ W β) :
    (purgeRecord id >>= f).Ends Q i s ↔ match (i.purgeUnder id s.store).1 with
      | .ok () => (f ()).Ends Q i (s.afterPurge i id)
      | .error e => Q (.error (.storage e)) i (s.afterPurge i id) := by
  have purges : purgeRecord id = (get >>= fun (st : Item σ W × Session σ W) =>
      (set (st.1, st.2.afterPurge st.1 id) : ItemRun σ W PUnit) >>= fun _ =>
        match (st.1.purgeUnder id st.2.store).1 with
        | .ok () => pure ()
        | .error e => throw (.storage e)) := rfl
  rw [purges]
  show ((match (i.purgeUnder id s.store).1 with
    | .ok () => pure ()
    | .error e => throw (.storage e) : ItemRun σ W Unit) >>= f).Ends Q i (s.afterPurge i id) ↔ _
  rcases (i.purgeUnder id s.store).1 with _ | ⟨⟩ <;> exact Iff.rfl

theorem ends_remove (i : Item σ W) (s : Session σ W) : remove.Ends (Removing i s) i s := by
  unfold remove
  rw [ends_identity_bind]
  split
  · next id named =>
    refine ends_bind (ends_fire .beforeRemove i s) ?_ fun e j t h => .stopped e h.1 h.2
    intro _ j t h
    rw [ends_purgeRecord_bind]
    split
    · next answer =>
      rw [ends_note_bind, ends_modify_bind]
      refine ends_mono (ends_fire .afterRemove _ _) ?_
      intro r k u h'
      exact .removed r named h.1 h.2 answer h'.1 h'.2
    · next e answer => exact .refused e named h.1 h.2 answer
  · exact .stopped _ .refl (.refl s)

/-! ## Loading -/

theorem ends_readRecord_bind {Q : Except ModelError β → Item σ W → Session σ W → Prop} (id : Uuid)
    (f : Record → ItemRun σ W β) :
    (readRecord id >>= f).Ends Q i s ↔ match i.readUnder id s.store with
      | .ok record => (f record).Ends Q i (s.afterRead i id)
      | .error e => Q (.error (.storage e)) i (s.afterRead i id) := by
  have reads : readRecord id = (get >>= fun (st : Item σ W × Session σ W) =>
      (set (st.1, st.2.afterRead st.1 id) : ItemRun σ W PUnit) >>= fun _ =>
        match st.1.readUnder id st.2.store with
        | .ok record => pure record
        | .error e => throw (.storage e)) := rfl
  rw [reads]
  show ((match i.readUnder id s.store with
    | .ok record => pure record
    | .error e => throw (.storage e) : ItemRun σ W Record) >>= f).Ends Q i (s.afterRead i id) ↔ _
  cases i.readUnder id s.store <;> exact Iff.rfl

theorem ends_loadRecord (id : Uuid) (i : Item σ W) (s : Session σ W) :
    (loadRecord id).Ends (Reading i s id) i s := by
  unfold loadRecord
  refine ends_bind (ends_fire .beforeLoad i s) ?_ fun e j t h => .stopped e h.1 h.2
  intro _ j t h
  rw [ends_readRecord_bind]
  split
  · next record answer =>
    rw [ends_modifyItem_bind]
    refine ends_mono (ends_fire .afterLoad _ _) ?_
    intro r k u h'
    exact .adopted r h.1 h.2 answer h'.1 h'.2
  · next e answer => exact .refused e h.1 h.2 answer

/-- An attempt ends as the operation does, and goes on with its result. -/
theorem ends_attempt_bind {P : Except ModelError α → Item σ W → Session σ W → Prop}
    {Q : Except ModelError β → Item σ W → Session σ W → Prop} {x : ItemRun σ W α}
    {f : Except ModelError α → ItemRun σ W β} (hx : x.Ends P i s)
    (next : ∀ r j t, P r j t → (f r).Ends Q j t) : (attempt x >>= f).Ends Q i s :=
  next _ _ _ hx

theorem ends_load (i : Item σ W) (s : Session σ W) : load.Ends (Loading i s) i s := by
  unfold load
  rw [ends_item_bind]
  split
  · next known => exact .repeated _ known
  · next e known => exact .repeated _ known
  next fresh =>
  rw [ends_identity_bind]
  split
  · next id named =>
    refine ends_when (P := fun _ j t => j = i ∧ s.Quiet t)
      (fun _ => ends_decideConflict "discarding changes of" i s) (fun _ => ⟨rfl, .refl s⟩) ?_ ?_
    · rintro _ t ⟨rfl, quiet⟩
      -- The attempt itself does not fail: its result is remembered first.
      refine ends_attempt_bind (ends_loadRecord id _ t) ?_
      intro r j u reading
      rw [ends_modifyItem_bind]
      rcases r with e | ⟨⟩ <;> exact .tried _ fresh named quiet reading
    · rintro e _ t ⟨rfl, quiet⟩
      exact .stopped e fresh quiet
  · exact .stopped _ fresh (.refl s)

/-- Reloading is loading an item that has forgotten how loading ended. -/
theorem ends_reload (i : Item σ W) (s : Session σ W) :
    reload.Ends (Loading (i.withOutcome none) s) i s := by
  unfold reload
  rw [ends_modifyItem_bind]
  exact ends_load _ s

end ItemRun

end EntityStore
