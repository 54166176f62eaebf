import EntityStore.Proofs.Index.Current
import EntityStore.Proofs.KeyTemplate.Segments
import EntityStore.Proofs.Model
import EntityStore.Proofs.Storage.Depot

set_option autoImplicit false

/-! # Indices, and the records of the observed adapter

An item may be stored under an adapter of its own. The indices of its model are brought up to date
by its saving and removing all the same, while the adapter that the model observes knows nothing of
it. So the indices hold the items that were last written under any adapter, and the observed adapter
has the records of those that were last written under it (`Population.observed_run`). The two agree
if no item has an adapter of its own, and not in general (`Population.observed_differs`). -/

namespace EntityStore

variable {σ W : Type}

/-! ## The records of a model -/

theorem Model.Coherent.isBelow_key_iff {keyBase : String} {m : Model σ W}
    (coherent : m.Coherent keyBase) {id other : Uuid} :
    Key.isBelow (m.keys.key id) (m.keys.key other) = true ↔ id = other := by
  rw [coherent.keys_eq, KeyTemplate.isBelow_key_iff keyBase coherent.named coherent.named,
    Prod.mk.injEq, and_iff_right rfl]

namespace Session

/-- After a write something is known of an item if it was before, or if the write succeeded and was
one of the item; after a removal if it was before, unless the removal succeeded and was one of the
item. -/
theorem isSome_trackWritten_answered (m : Model σ W) (id other : Uuid)
    (known : Option Properties) (bag : Properties) (r : Except StorageError Unit) :
    ((trackWritten m other known (.write m.handle id bag r.isOk)).isSome = true ↔
      known.isSome = true ∨ r = .ok () ∧ other = id) ∧
    ((trackWritten m other known (.purge m.handle id r.isOk)).isSome = true ↔
      known.isSome = true ∧ ¬(r = .ok () ∧ other = id)) := by
  cases r with
  | error e => simp [Except.isOk, Except.toBool, trackWritten]
  | ok =>
    by_cases same : id = other
    · simp [Except.isOk, Except.toBool, trackWritten, same]
    · simp [Except.isOk, Except.toBool, trackWritten, same, Ne.symm same]

/-- The model observes its own adapter, and this has a record for each item of which something is
known, and for no other items of the model. -/
structure Stores (s : Session σ W) (m : Model σ W) (meant : W → Prop)
    (known : Uuid → Option Properties) : Prop where
  /-- The store is one of those that are meant. -/
  meant : meant s.store
  /-- No adapter was chosen to be observed. -/
  observed_eq : s.observed m.handle = none
  /-- The items with records are the known ones. -/
  has_iff : ∀ id, m.adapter.has (m.keys.key id) s.store = .ok true ↔ (known id).isSome = true

namespace Stores

variable {s t : Session σ W} {m : Model σ W} {meant : W → Prop} {known : Uuid → Option Properties}
  {i : Item σ W} {keyBase : String}

theorem of_eq (h : s.Stores m meant known) (store : t.store = s.store)
    (observed : t.observed = s.observed) : t.Stores m meant known :=
  ⟨store ▸ h.meant, observed ▸ h.observed_eq, store ▸ h.has_iff⟩

/-- Writes under another adapter do not count. -/
theorem afterWrite_of_spares (h : s.Stores m meant known)
    (spares : i.adapter.Spares m.adapter meant) (id : Uuid) :
    (s.afterWrite i id).Stores m meant known := by
  obtain ⟨meant', has⟩ := spares.write h.meant (i.model.keys.key id)
    (i.model.pipeline.serialize i.adapter.binary i.properties)
  exact ⟨meant', h.observed_eq, fun other => (has _).symm ▸ h.has_iff other⟩

theorem afterPurge_of_spares (h : s.Stores m meant known)
    (spares : i.adapter.Spares m.adapter meant) (id : Uuid) :
    (s.afterPurge i id).Stores m meant known := by
  obtain ⟨meant', has⟩ := spares.purge h.meant (i.model.keys.key id)
  exact ⟨meant', h.observed_eq, fun other => (has _).symm ▸ h.has_iff other⟩

section Own

variable (coherent : m.Coherent keyBase) (keeps : m.adapter.Keeps meant) (model : i.model = m)
  (own : i.adapter = m.adapter)
include coherent keeps model own

/-- A write under the adapter of the model counts. -/
theorem afterWrite (h : s.Stores m meant known) (id : Uuid) :
    (s.afterWrite i id).Stores m meant fun other => trackWritten m other (known other)
      (.write i.model.handle id i.properties (i.writeUnder id s.store).1.isOk) := by
  have answer : i.writeUnder id s.store = m.adapter.write (m.keys.key id)
      (m.pipeline.serialize m.adapter.binary i.properties) s.store := by
    rw [Item.writeUnder, own, model]
  have store : (s.afterWrite i id).store = (i.writeUnder id s.store).2 := rfl
  obtain ⟨meant', has⟩ := keeps.write h.meant (m.keys.key id)
    (m.pipeline.serialize m.adapter.binary i.properties)
  refine ⟨by rwa [store, answer], h.observed_eq, fun other => ?_⟩
  have same : m.keys.key other = m.keys.key id ↔ other = id :=
    ⟨fun eq => coherent.isBelow_key_iff.1 (Key.isBelow_iff.2 (.inl eq)), fun eq => by rw [eq]⟩
  rw [store, answer, has, h.has_iff, same, model, (isSome_trackWritten_answered ..).1]

/-- So does a removal. -/
theorem afterPurge (h : s.Stores m meant known) (id : Uuid) :
    (s.afterPurge i id).Stores m meant fun other => trackWritten m other (known other)
      (.purge i.model.handle id (i.purgeUnder id s.store).1.isOk) := by
  have answer : i.purgeUnder id s.store = m.adapter.purge (m.keys.key id) s.store := by
    rw [Item.purgeUnder, own, model]
  have store : (s.afterPurge i id).store = (i.purgeUnder id s.store).2 := rfl
  obtain ⟨meant', has⟩ := keeps.purge h.meant (m.keys.key id)
  refine ⟨by rwa [store, answer], h.observed_eq, fun other => ?_⟩
  rw [store, answer, has, h.has_iff, coherent.isBelow_key_iff, model,
    (isSome_trackWritten_answered m id other (known other) i.properties _).2]

end Own

end Stores

/-- Since the journal was a given one, steps were entered into it from which it follows which items
have records, given what was known before. -/
def StoresSince (t : Session σ W) (m : Model σ W) (meant : W → Prop)
    (known : Uuid → Option Properties) (journal : List Step) : Prop :=
  ∃ steps, t.journal = journal ++ steps ∧
    t.Stores m meant fun id => steps.foldl (trackWritten m id) (known id)

namespace StoresSince

variable {s t : Session σ W} {m : Model σ W} {meant : W → Prop} {known : Uuid → Option Properties}
  {journal : List Step}

theorem of_eq (h : s.StoresSince m meant known journal) (same : t.journal = s.journal)
    (store : t.store = s.store) (observed : t.observed = s.observed) :
    t.StoresSince m meant known journal := by
  obtain ⟨steps, eq, stores⟩ := h
  exact ⟨steps, same.trans eq, stores.of_eq store observed⟩

theorem step (h : s.StoresSince m meant known journal) {step : Step}
    (entered : t.journal = s.journal ++ [step])
    (next : ∀ known', s.Stores m meant known' →
      t.Stores m meant fun id => trackWritten m id (known' id) step) :
    t.StoresSince m meant known journal := by
  obtain ⟨steps, eq, stores⟩ := h
  refine ⟨steps ++ [step], by rw [entered, eq, List.append_assoc], ?_⟩
  simp only [List.foldl_append]
  exact next _ stores

theorem quiet (h : s.StoresSince m meant known journal) (quiet : s.Quiet t) :
    t.StoresSince m meant known journal := by
  obtain ⟨steps, eq, stores⟩ := h
  obtain ⟨silent, notes, quiet, rfl⟩ := quiet
  refine ⟨steps ++ silent, by rw [eq, List.append_assoc], ?_⟩
  simp only [List.foldl_append, foldl_trackWritten_quiet quiet]
  exact stores.of_eq rfl rfl

end StoresSince

/-- Operations on an item that is stored under the adapter of its model change the records as the
journal tells. -/
theorem kept_storesSince {m : Model σ W} {meant : W → Prop} {keyBase : String}
    (coherent : m.Coherent keyBase) (keeps : m.adapter.Keeps meant)
    (known : Uuid → Option Properties) (journal : List Step) :
    Session.Kept (fun i => i.model = m ∧ i.adapter = m.adapter)
      fun s => s.StoresSince m meant known journal where
  quiet h quiet := h.quiet quiet
  mint h := h.of_eq rfl rfl rfl
  read i id h := h.step rfl fun _ stores => stores.of_eq rfl rfl
  write {s _ j} id item checked h _ := by
    have model := checked.rewritten.model_eq.trans item.1
    have own := checked.rewritten.adapter_eq.trans item.2
    have written : (s.afterWrite j id).StoresSince m meant known journal :=
      h.step rfl fun _ stores => stores.afterWrite coherent keeps model own id
    have entered : ((s.afterWrite j id).log .index).StoresSince m meant known journal :=
      written.step rfl fun _ stores => stores.of_eq rfl rfl
    exact entered.of_eq rfl rfl rfl
  writeRefused id item checked h _ := by
    have model := checked.rewritten.model_eq.trans item.1
    have own := checked.rewritten.adapter_eq.trans item.2
    exact h.step rfl fun _ stores => stores.afterWrite coherent keeps model own id
  purge {s _ j} id item events h _ := by
    have model := events.rewritten.model_eq.trans item.1
    have own := events.rewritten.adapter_eq.trans item.2
    have purged : (s.afterPurge j id).StoresSince m meant known journal :=
      h.step rfl fun _ stores => stores.afterPurge coherent keeps model own id
    have entered : ((s.afterPurge j id).log .unindex).StoresSince m meant known journal :=
      purged.step rfl fun _ stores => stores.of_eq rfl rfl
    exact entered.of_eq rfl rfl rfl
  purgeRefused id item events h _ := by
    have model := events.rewritten.model_eq.trans item.1
    have own := events.rewritten.adapter_eq.trans item.2
    exact h.step rfl fun _ stores => stores.afterPurge coherent keeps model own id

/-- Operations on an item that is stored under another adapter leave the records of the model
alone. -/
theorem kept_stores {m : Model σ W} {meant : W → Prop} {known : Uuid → Option Properties} :
    Session.Kept (fun i => i.adapter.Spares m.adapter meant) fun s => s.Stores m meant known where
  quiet h quiet := h.of_eq quiet.store_eq quiet.observed_eq
  mint h := h.of_eq rfl rfl
  read _ _ h := h.of_eq rfl rfl
  write id item checked h _ :=
    (h.afterWrite_of_spares (checked.rewritten.adapter_eq ▸ item) id).of_eq rfl rfl
  writeRefused id item checked h _ :=
    h.afterWrite_of_spares (checked.rewritten.adapter_eq ▸ item) id
  purge id item events h _ :=
    (h.afterPurge_of_spares (events.rewritten.adapter_eq ▸ item) id).of_eq rfl rfl
  purgeRefused id item events h _ :=
    h.afterPurge_of_spares (events.rewritten.adapter_eq ▸ item) id

/-- The journal only grows. -/
theorem kept_journal (journal : List Step) :
    Session.Kept (fun _ : Item σ W => True) fun s => journal <+: s.journal where
  quiet h quiet := by
    obtain ⟨steps, notes, -, rfl⟩ := quiet
    exact h.trans (List.prefix_append _ _)
  mint h := h
  read _ _ h := h.trans (List.prefix_append _ _)
  write _ _ _ h _ := (h.trans (List.prefix_append _ _)).trans (List.prefix_append _ _)
  writeRefused _ _ _ h _ := h.trans (List.prefix_append _ _)
  purge _ _ _ h _ := (h.trans (List.prefix_append _ _)).trans (List.prefix_append _ _)
  purgeRefused _ _ _ h _ := h.trans (List.prefix_append _ _)

end Session

/-- The item is one of the model, and it is stored under the adapter of the model, or under another
one that leaves alone what that has. -/
structure Item.IsPlaced (m : Model σ W) (meant : W → Prop) (i : Item σ W) : Prop where
  model_eq : i.model = m
  placed : i.adapter = m.adapter ∨
    i.adapter.handle ≠ m.adapter.handle ∧ i.adapter.Spares m.adapter meant

theorem Item.IsPlaced.kept (m : Model σ W) (meant : W → Prop) : Item.Kept (IsPlaced m meant) where
  rewritten h steps := ⟨steps.model_eq.trans h.model_eq, steps.adapter_eq.symm ▸ h.placed⟩
  adopt _ h := ⟨h.model_eq, h.placed⟩
  markSaved _ h := ⟨h.model_eq, h.placed⟩
  withOutcome _ h := ⟨h.model_eq, h.placed⟩

/-! ## Runs -/

namespace Population

/-- The steps that an action enters into the journal for an item that is stored under the adapter of
the model. -/
def ownStepsOf (m : Model σ W) (p : Population σ W) : Action W → List Step
  | .make _ _ _ => []
  | .operate n op =>
    match p.items[n]? with
    | none => []
    | some i =>
      if i.adapter.handle = m.adapter.handle then
        (p.act m (.operate n op)).session.journal.drop p.session.journal.length
      else []

/-- The steps that a run enters into the journal for items that are stored under the adapter of the
model. -/
def ownSteps (m : Model σ W) (p : Population σ W) : List (Action W) → List Step
  | [] => []
  | a :: rest => p.ownStepsOf m a ++ (p.act m a).ownSteps m rest

/-- The properties with which an item was last written under the adapter of the model in a run,
unless its record has been removed there since. -/
def ownWritten? (m : Model σ W) (p : Population σ W) (actions : List (Action W)) (id : Uuid) :
    Option Properties := (p.ownSteps m actions).foldl (Session.trackWritten m id) none

variable {m : Model σ W} {p : Population σ W} {meant : W → Prop} {keyBase : String}
  {known : Uuid → Option Properties} {actions : List (Action W)}

theorem act_journal (m : Model σ W) (p : Population σ W) (a : Action W) :
    p.session.journal <+: (p.act m a).session.journal :=
  session_act (Session.kept_journal p.session.journal) a (fun _ _ => trivial) List.prefix_rfl

/-- An action changes the records of the model as the steps tell that are its own. -/
theorem stores_act (coherent : m.Coherent keyBase) (keeps : m.adapter.Keeps meant)
    (items : ∀ i ∈ p.items, i.IsPlaced m meant) (h : p.session.Stores m meant known)
    (a : Action W) : (p.act m a).session.Stores m meant
      fun id => (p.ownStepsOf m a).foldl (Session.trackWritten m id) (known id) := by
  cases a with
  | make id adapter policy => exact h.of_eq rfl rfl
  | operate n op =>
    cases item : p.items[n]? with
    | none =>
      simp only [ownStepsOf, act, item]
      exact h
    | some i =>
      have placed := items i (List.mem_of_getElem? item)
      have out := op.ends_run i p.session
      have ends : (p.act m (.operate n op)).session = (op.run.run.run (i, p.session)).2.2 := by
        simp only [act, item]
        rfl
      simp only [ownStepsOf, item]
      split
      · next own =>
        have same : i.adapter = m.adapter := placed.placed.resolve_right fun other => other.1 own
        obtain ⟨steps, journal, stores⟩ := out.keepsSession
          (Session.kept_storesSince coherent keeps known p.session.journal)
          ⟨placed.model_eq, same⟩ ⟨[], (List.append_nil _).symm, h⟩
        rw [ends, journal, List.drop_left]
        exact stores
      · next other =>
        have spares := placed.placed.resolve_left fun same => other (by rw [same])
        rw [ends]
        exact out.keepsSession Session.kept_stores spares.2 h

theorem isPlaced_act (items : ∀ i ∈ p.items, i.IsPlaced m meant) (a : Action W)
    (made : ∀ id b policy, a = .make id (some b) policy →
      b = m.adapter ∨ b.handle ≠ m.adapter.handle ∧ b.Spares m.adapter meant) :
    ∀ i ∈ (p.act m a).items, i.IsPlaced m meant := by
  refine forall_items_act (Item.IsPlaced.kept m meant) a (fun id adapter policy make => ?_) items
  cases adapter with
  | none => exact ⟨rfl, .inl rfl⟩
  | some b => exact ⟨rfl, made id b policy make⟩

/-- As an action, so a run changes the records of the model as the steps tell that are its own. -/
theorem stores_run (coherent : m.Coherent keyBase) (keeps : m.adapter.Keeps meant)
    (made : ∀ id b policy, .make id (some b) policy ∈ actions →
      b = m.adapter ∨ b.handle ≠ m.adapter.handle ∧ b.Spares m.adapter meant)
    (items : ∀ i ∈ p.items, i.IsPlaced m meant) (h : p.session.Stores m meant known) :
    (p.run m actions).session.Stores m meant
      fun id => (p.ownSteps m actions).foldl (Session.trackWritten m id) (known id) := by
  induction actions generalizing p known with
  | nil => exact h
  | cons a rest ih =>
    have next := stores_act coherent keeps items h a
    have items' := isPlaced_act items a fun id b policy make =>
      made id b policy (make ▸ List.mem_cons_self)
    have after := ih (fun id b policy make => made id b policy (List.mem_cons_of_mem a make))
      items' next
    simp only [ownSteps, List.foldl_append]
    exact after

/-- If all items are stored under the adapter of the model, all steps are its own. -/
theorem ownStepsOf_eq (items : ∀ i ∈ p.items, i.adapter = m.adapter) (a : Action W) :
    p.session.journal ++ p.ownStepsOf m a = (p.act m a).session.journal := by
  cases a with
  | make id adapter policy => exact List.append_nil _
  | operate n op =>
    cases item : p.items[n]? with
    | none => simp only [ownStepsOf, act, item, List.append_nil]
    | some i =>
      have own : i.adapter.handle = m.adapter.handle := by
        rw [items i (List.mem_of_getElem? item)]
      simp only [ownStepsOf, item, if_pos own]
      exact List.prefix_iff_eq_append.1 (act_journal m p (.operate n op))

theorem ownSteps_eq (made : ∀ id b policy, .make id (some b) policy ∈ actions → b = m.adapter)
    (items : ∀ i ∈ p.items, i.adapter = m.adapter) :
    p.session.journal ++ p.ownSteps m actions = (p.run m actions).session.journal := by
  induction actions generalizing p with
  | nil => exact List.append_nil _
  | cons a rest ih =>
    have items' : ∀ i ∈ (p.act m a).items, i.adapter = m.adapter := by
      refine forall_items_act (Item.kept_adapter m.adapter) a (fun id b policy make => ?_) items
      cases b with
      | none => rfl
      | some b => exact made id b policy (make ▸ List.mem_cons_self)
    have after := ih (fun id b policy make => made id b policy (List.mem_cons_of_mem a make)) items'
    rw [← ownStepsOf_eq items, List.append_assoc] at after
    exact after

/-- The indices of a model hold the items that were last written under any adapter, and the adapter
that the model observes, its own one, has the records of those that were last written under it. If
no item has another adapter, these are the same. The adapter keeps records, and at first it has none
of the model; other adapters leave alone what it has. -/
theorem observed_run (compiled : m.Compiled keyBase) (keeps : m.adapter.Keeps meant)
    (made : ∀ id b policy, .make id (some b) policy ∈ actions →
      b = m.adapter ∨ b.handle ≠ m.adapter.handle ∧ b.Spares m.adapter meant)
    {store : W} (start_meant : meant store)
    (empty : ∀ id, m.adapter.has (m.keys.key id) store ≠ .ok true) (notes : σ)
    (identities : Nat → Uuid) :
    let p : Population σ W := start store notes identities
    let s := (p.run m actions).session
    (∀ x ∈ s.indicesOf m, ∀ id,
      (∃ v, (v, id) ∈ x.content.entries) ↔ (s.lastWritten? m id).isSome = true) ∧
    (∀ id, (s.observedAdapter m).has (m.keys.key id) s.store = .ok true ↔
      (p.ownWritten? m actions id).isSome = true) ∧
    ((∀ id b policy, .make id (some b) policy ∈ actions → b = m.adapter) →
      ∀ x ∈ s.indicesOf m, ∀ id, (∃ v, (v, id) ∈ x.content.entries) ↔
        (s.observedAdapter m).has (m.keys.key id) s.store = .ok true) := by
  intro p s
  have coherent := compiled.coherent
  have stores : s.Stores m meant (p.ownWritten? m actions) := by
    refine stores_run coherent keeps made (by simp [p, start]) ⟨start_meant, rfl, fun id => ?_⟩
    simpa [p, start] using empty id
  have observed : s.observedAdapter m = m.adapter := by
    rw [Session.observedAdapter, stores.observed_eq, Option.getD_none]
  have current : s.IndicesCurrent m := indicesCurrent_run m store notes identities actions
  have indexed : ∀ x ∈ s.indicesOf m, ∀ id,
      (∃ v, (v, id) ∈ x.content.entries) ↔ (s.lastWritten? m id).isSome = true := by
    intro x hx id
    simp only [(current.holds x hx).represents.mem_iff]
    cases s.lastWritten? m id <;> simp
  refine ⟨indexed, fun id => by rw [observed]; exact stores.has_iff id, fun own x hx id => ?_⟩
  have written : p.ownWritten? m actions id = s.lastWritten? m id := by
    have journal := ownSteps_eq (p := p) own (by simp [p, start])
    rw [ownWritten?, Session.lastWritten?, ← journal]
    rfl
  rw [indexed x hx id, observed, stores.has_iff, written]

/-! Labels in one memory, and under an adapter for another one. -/

/-- Two empty memories. -/
def labelDepot : Depot := ⟨#[.memory true {}, .memory true {}]⟩

/-- Labels are stored in the first one. -/
def labelContext : ModelContext Depot := { adapter := labelDepot.adapter 0 }

/-- The model of labels, which have an index on their texts. -/
def labelModel : Model Unit Depot :=
  (Model.compile labelContext 1 "Label"
    (Draft.property {} "text" { default := some (.string "x"), index := some (.enabled true) })
    (.root labelContext) none).toOption.get (by decide +kernel)

/-- A label is saved in the first memory, and another one in the second; then a label with the
identity of the first is removed from the second. -/
def labelActions : List (Action Depot) :=
  [.make (some (.ofNat 5)) none none, .operate 0 .save,
    .make (some (.ofNat 6)) (some (labelDepot.adapter 1)) none, .operate 1 .save,
    .make (some (.ofNat 5)) (some (labelDepot.adapter 1)) none, .operate 2 .remove]

/-- The session after that. -/
def labelSession : Session Unit Depot :=
  ((start labelDepot () .ofNat).run labelModel labelActions).session

theorem labelModel_compiled : labelModel.Compiled "models" :=
  .compile labelContext 1 "Label" _ none (.root labelContext) (Except.eq_ok_get _ _)

theorem labelModel_adapter : labelModel.adapter = labelDepot.adapter 0 := rfl

theorem labelModel_keeps :
    labelModel.adapter.Keeps fun d => (Depot.memory? 0 d).isSome = true := by
  rw [labelModel_adapter]
  exact (Depot.serves labelDepot 0).keeps

theorem labelActions_made : ∀ id b policy, .make id (some b) policy ∈ labelActions →
    b = labelModel.adapter ∨ b.handle ≠ labelModel.adapter.handle ∧
      b.Spares labelModel.adapter fun d => (Depot.memory? 0 d).isSome = true := by
  intro id b policy made
  have other : b = labelDepot.adapter 1 := by
    simp only [labelActions, List.mem_cons, Action.make.injEq, reduceCtorEq, Option.some.injEq,
      List.not_mem_nil, false_and, and_false, false_or, or_false] at made
    rcases made with ⟨-, h, -⟩ | ⟨-, h, -⟩ <;> exact h
  rw [other, labelModel_adapter]
  exact .inr ⟨by decide, Depot.spares labelDepot labelDepot (by decide)⟩

theorem labelDepot_empty (id : Uuid) :
    labelModel.adapter.has (labelModel.keys.key id) labelDepot ≠ .ok true := by
  have none : (labelDepot.adapter 0).has (labelModel.keys.key id) labelDepot =
      ({} : Memory).has (labelModel.keys.key id) := rfl
  rw [labelModel_adapter, none, ne_eq, Memory.has_iff]
  simp

/-- The first label is stored where the model observes it and not in the index, and the second is
in the index and not stored there. -/
theorem observed_run_labels :
    (∀ x ∈ labelSession.indicesOf labelModel,
      (∃ v, (v, .ofNat 6) ∈ x.content.entries) ∧ ¬ ∃ v, (v, .ofNat 5) ∈ x.content.entries) ∧
    (labelSession.observedAdapter labelModel).has (labelModel.keys.key (.ofNat 5))
      labelSession.store = .ok true ∧
    (labelSession.observedAdapter labelModel).has (labelModel.keys.key (.ofNat 6))
      labelSession.store ≠ .ok true := by
  obtain ⟨indexed, stored, -⟩ := observed_run labelModel_compiled labelModel_keeps
    labelActions_made (by decide) labelDepot_empty () .ofNat
  have written : (labelSession.lastWritten? labelModel (.ofNat 6)).isSome = true ∧
      (labelSession.lastWritten? labelModel (.ofNat 5)).isSome = false ∧
      ((start labelDepot () .ofNat).ownWritten? labelModel labelActions (.ofNat 5)).isSome = true ∧
      ((start labelDepot () .ofNat).ownWritten? labelModel labelActions (.ofNat 6)).isSome =
        false := by decide +kernel
  obtain ⟨second, first, firstOwn, secondOwn⟩ := written
  refine ⟨fun x hx => ⟨(indexed x hx _).2 second, mt (indexed x hx _).1 ?_⟩, (stored _).2 firstOwn,
    mt (stored _).1 ?_⟩
  · exact Bool.eq_false_iff.1 first
  · exact Bool.eq_false_iff.1 secondOwn

/-- Not in every run the indices hold the items of which the observed adapter has records. -/
theorem observed_differs :
    ¬ ∀ (m : Model Unit Depot) (keyBase : String) (meant : Depot → Prop)
      (actions : List (Action Depot)) (store : Depot), m.Compiled keyBase →
      m.adapter.Keeps meant →
      (∀ id b policy, .make id (some b) policy ∈ actions →
        b = m.adapter ∨ b.handle ≠ m.adapter.handle ∧ b.Spares m.adapter meant) →
      meant store → (∀ id, m.adapter.has (m.keys.key id) store ≠ .ok true) →
      let s := ((start store () .ofNat).run m actions).session
      ∀ x ∈ s.indicesOf m, ∀ id, (∃ v, (v, id) ∈ x.content.entries) ↔
        (s.observedAdapter m).has (m.keys.key id) s.store = .ok true := by
  intro all
  have same := all labelModel "models" _ labelActions labelDepot labelModel_compiled
    labelModel_keeps labelActions_made (by decide) labelDepot_empty
  have found : (labelSession.indicesOf labelModel).any
      (fun x => x.content.entries.any fun e => e.2 = .ofNat 6) = true := by decide +kernel
  obtain ⟨x, hx, found⟩ := List.any_eq_true.1 found
  obtain ⟨⟨v, id⟩, entry, eq⟩ := List.any_eq_true.1 found
  obtain rfl : id = .ofNat 6 := of_decide_eq_true eq
  have stored : (labelSession.observedAdapter labelModel).has (labelModel.keys.key (.ofNat 6))
      labelSession.store = .ok true := (same x hx _).1 ⟨v, entry⟩
  have answer : ((labelSession.observedAdapter labelModel).has (labelModel.keys.key (.ofNat 6))
      labelSession.store).toOption = some false := by decide +kernel
  rw [stored] at answer
  exact absurd answer (by decide)

end Population

end EntityStore
