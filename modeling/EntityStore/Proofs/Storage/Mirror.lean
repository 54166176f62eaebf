import EntityStore.Proofs.Index.Current
import EntityStore.Proofs.Item.Canonical
import EntityStore.Proofs.KeyTemplate.Segments
import EntityStore.Proofs.Storage.Memory

set_option autoImplicit false

/-! # A memory holds the records that were written last

A model that keeps its items in a memory of its own finds there the record of each item that was
written and not removed since, as it was written, and nothing else (`Session.Mirrors`). If its code
for events does not write properties, a record is written from properties that have been checked,
so it can be read back. -/

namespace EntityStore

/-- Code for events does not write properties; it may do anything else, and fail. -/
def Model.HooksOnlyCheck {σ W : Type} (m : Model σ W) : Prop :=
  ∀ e code, m.hook? e = some code → ∀ (i : Item σ W) notes, i.model = m →
    (i.runScript code notes).2.1.properties = i.properties

theorem Item.AfterEvents.properties_eq {σ W : Type} {i j : Item σ W} (h : i.AfterEvents j)
    (hooks : i.model.HooksOnlyCheck) : j.properties = i.properties := by
  induction h with
  | refl => rfl
  | tail before last ih =>
    obtain ⟨e, code, notes, hook, rfl⟩ := last
    have model := AfterEvents.model_eq before
    rw [model] at hook
    rw [hooks e code hook _ notes model, ih]

variable {σ : Type} {m : Model σ Memory} {keyBase : String} {handle : Nat} {binary : Bool}

/-! ## Items without an adapter of their own -/

/-- The item is one of the model, has properties in canonical form, and is stored under the adapter
of the model. -/
structure Item.IsOwned (m : Model σ Memory) (i : Item σ Memory) : Prop extends
    i.IsCanonical m where
  /-- There is no adapter of its own. -/
  ownAdapter_eq : i.ownAdapter = none

namespace Item.IsOwned

variable {i j : Item σ Memory}

theorem kept (coherent : m.Coherent keyBase) : Item.Kept (IsOwned m) where
  rewritten h steps :=
    ⟨(kept_canonical coherent).rewritten h.toIsCanonical steps,
      steps.ownAdapter_eq.trans h.ownAdapter_eq⟩
  adopt record h := ⟨(kept_canonical coherent).adopt record h.toIsCanonical, h.ownAdapter_eq⟩
  markSaved s h := ⟨(kept_canonical coherent).markSaved s h.toIsCanonical, h.ownAdapter_eq⟩
  withOutcome o h := ⟨(kept_canonical coherent).withOutcome o h.toIsCanonical, h.ownAdapter_eq⟩

theorem adapter_eq (h : i.IsOwned m) (own : m.adapter = Memory.adapter handle binary) :
    i.adapter = Memory.adapter handle binary := by
  rw [adapter, h.ownAdapter_eq, Option.getD_none, h.model_eq, own]

theorem writeUnder_eq (h : i.IsOwned m) (own : m.adapter = Memory.adapter handle binary)
    (codec : m.keys.IsCodec) (id : Uuid) (store : Memory) :
    i.writeUnder id store = (.ok (), ⟨store.records.insert (m.keys.key id)
      (m.pipeline.serialize binary i.properties)⟩) := by
  unfold writeUnder
  rw [h.adapter_eq own, h.model_eq]
  exact Memory.write_of_isValid (codec.valid id) _ store

theorem purgeUnder_eq (h : i.IsOwned m) (own : m.adapter = Memory.adapter handle binary)
    (codec : m.keys.IsCodec) (id : Uuid) (store : Memory) :
    i.purgeUnder id store =
      (.ok (), ⟨store.records.filter fun key _ => !Key.isBelow key (m.keys.key id)⟩) := by
  unfold purgeUnder
  rw [h.adapter_eq own, h.model_eq]
  exact Memory.purge_of_isValid (codec.valid id) store

end Item.IsOwned

/-! ## The store, and what was written -/

namespace Session

/-- The store holds a record for each item of the model that was written and not removed since, as
it was written, and no other records; and what was written can be read back. -/
structure Mirrors (s : Session σ Memory) (m : Model σ Memory) (binary : Bool) : Prop where
  /-- The model observes its own adapter. -/
  observed_eq : s.observed m.handle = none
  /-- All records are those of items. -/
  named : ∀ key ∈ s.store.records.names, ∃ id, key = m.keys.key id
  /-- The record of an item is that of what was last written. -/
  record_eq : ∀ id, s.store.records.get? (m.keys.key id) =
    (s.lastWritten? m id).map (m.pipeline.serialize binary)
  /-- What was written can be read back. -/
  readable : ∀ id bag, s.lastWritten? m id = some bag →
    m.schema.properties.IsCanonical bag ∧ m.schema.properties.isStorable bag = true

namespace Mirrors

variable {s t : Session σ Memory}

theorem of_eq (h : s.Mirrors m binary) (store : t.store = s.store)
    (observed : t.observed = s.observed) (written : t.lastWritten? m = s.lastWritten? m) :
    t.Mirrors m binary where
  observed_eq := observed ▸ h.observed_eq
  named := store ▸ h.named
  record_eq := by
    rw [store, written]
    exact h.record_eq
  readable := by
    rw [written]
    exact h.readable

theorem quiet (h : s.Mirrors m binary) (quiet : s.Quiet t) : t.Mirrors m binary :=
  h.of_eq quiet.store_eq quiet.observed_eq (quiet.lastWritten?_eq m)

theorem updateIndices (h : s.Mirrors m binary) (id : Uuid) (bag : Properties) :
    ((s.log .index).updateIndices m id bag).Mirrors m binary :=
  h.of_eq rfl rfl (funext fun other => lastWritten?_log s .index m other)

theorem removeFromIndices (h : s.Mirrors m binary) (id : Uuid) :
    ((s.log .unindex).removeFromIndices m id).Mirrors m binary :=
  h.of_eq rfl rfl (funext fun other => lastWritten?_log s .unindex m other)

theorem start (notes : σ) (identities : Nat → Uuid) (m : Model σ Memory) (binary : Bool) :
    (Population.start {} notes identities : Population σ Memory).session.Mirrors m binary where
  observed_eq := rfl
  named key hk := absurd hk (by simp [Population.start, Bag.names, Bag.empty])
  record_eq id := rfl
  readable id bag written := absurd written (by simp [Population.start, lastWritten?])

section Steps

variable (own : m.adapter = Memory.adapter handle binary) (codec : m.keys.IsCodec)
include own codec

/-- After a write the record is that of the item. -/
theorem write (h : s.Mirrors m binary) {i : Item σ Memory} (item : i.IsOwned m)
    (storable : m.schema.properties.isStorable i.properties = true) (id : Uuid) :
    (s.afterWrite i id).Mirrors m binary := by
  have answer := item.writeUnder_eq own codec id s.store
  have store : (s.afterWrite i id).store = (i.writeUnder id s.store).2 := rfl
  rw [answer] at store
  have written (other : Uuid) : (s.afterWrite i id).lastWritten? m other =
      if other = id then some i.properties else s.lastWritten? m other := by
    rw [← item.model_eq]
    exact congrFun (lastWritten?_afterWrite_ok s i id (by rw [answer])) other
  constructor
  · exact h.observed_eq
  · intro key hk
    rw [store, Bag.mem_names] at hk
    obtain ⟨record, hr⟩ := hk
    rw [Bag.get?_insert] at hr
    split at hr
    · exact ⟨id, by assumption⟩
    · exact h.named key (Bag.mem_names.2 ⟨record, hr⟩)
  · intro other
    rw [store, written, Bag.get?_insert]
    by_cases ho : other = id
    · rw [if_pos (congrArg _ ho), if_pos ho]
      rfl
    -- Other items have other keys.
    · rw [if_neg (mt codec.key_inj.1 ho), if_neg ho]
      exact h.record_eq other
  · intro other bag hw
    rw [written] at hw
    by_cases ho : other = id
    · rw [if_pos ho] at hw
      obtain rfl := Option.some.inj hw
      exact ⟨item.properties, storable⟩
    · rw [if_neg ho] at hw
      exact h.readable other bag hw

/-- After a removal there is no record, and the others are still there. -/
theorem purge (h : s.Mirrors m binary) {i : Item σ Memory} (item : i.IsOwned m) (id : Uuid) :
    (s.afterPurge i id).Mirrors m binary := by
  have answer := item.purgeUnder_eq own codec id s.store
  have store : (s.afterPurge i id).store = (i.purgeUnder id s.store).2 := rfl
  rw [answer] at store
  have written (other : Uuid) : (s.afterPurge i id).lastWritten? m other =
      if other = id then none else s.lastWritten? m other := by
    rw [← item.model_eq]
    exact congrFun (lastWritten?_afterPurge_ok s i id (by rw [answer])) other
  constructor
  · exact h.observed_eq
  · intro key hk
    rw [store, Bag.mem_names] at hk
    obtain ⟨record, hr⟩ := hk
    rw [Bag.get?_filter, Option.filter_eq_some_iff] at hr
    exact h.named key (Bag.mem_names.2 ⟨record, hr.1⟩)
  · intro other
    rw [store, written, Bag.get?_filter]
    by_cases ho : other = id
    · have below : Key.isBelow (m.keys.key other) (m.keys.key id) = true := by
        rw [ho, Key.isBelow, beq_self_eq_true, Bool.true_or]
      rw [if_pos ho, below]
      cases s.store.records.get? (m.keys.key other) <;> rfl
    -- Nothing else lies below the key that is removed.
    · have apart : Key.isBelow (m.keys.key other) (m.keys.key id) = false := by
        rw [← Bool.not_eq_true]
        exact mt codec.apart ho
      rw [if_neg ho, apart, h.record_eq other]
      cases s.lastWritten? m other <;> rfl
  · intro other bag hw
    rw [written] at hw
    by_cases ho : other = id
    · rw [if_pos ho] at hw
      exact absurd hw (by simp)
    · rw [if_neg ho] at hw
      exact h.readable other bag hw

end Steps

end Mirrors

end Session

/-! ## Operations -/

section Operations

variable (own : m.adapter = Memory.adapter handle binary) (codec : m.keys.IsCodec)
  (coherent : m.Coherent keyBase) (hooks : m.HooksOnlyCheck)

include coherent hooks in
/-- A record is written from properties that were checked, so it can be read back. -/
theorem Item.IsOwned.storable {i j : Item σ Memory} (h : i.IsOwned m)
    (plain : m.schema.properties.hasPlainYears i.properties = true) (checked : i.Checked j) :
    m.schema.properties.isStorable j.properties = true := by
  obtain ⟨c, before, valid, events⟩ := checked
  rw [← h.model_eq] at hooks
  -- Code for events writes nothing, so what is written is what was checked.
  rw [before.model_eq, h.model_eq, coherent.pipeline_eq, before.properties_eq hooks] at valid
  rw [(before.trans events).properties_eq hooks]
  exact Section.isStorable_of_violations coherent.typed plain valid

include own codec coherent hooks

/-- Whatever is done with an item, the store mirrors what was written. -/
theorem Session.kept_mirrors : Session.Kept
    (fun i => i.IsOwned m ∧ m.schema.properties.hasPlainYears i.properties = true)
    fun s => s.Mirrors m binary where
  quiet mirrors quiet := mirrors.quiet quiet
  mint mirrors := mirrors.of_eq rfl rfl rfl
  read i id mirrors := mirrors.of_eq rfl rfl (lastWritten?_afterRead _ i id m)
  write id item checked mirrors _ := by
    have item' := (Item.IsOwned.kept coherent).rewritten item.1 checked.rewritten
    have storable := item.1.storable coherent hooks item.2 checked
    rw [item'.model_eq]
    exact (mirrors.write own codec item' storable id).updateIndices id _
  writeRefused id item checked mirrors _ := by
    have item' := (Item.IsOwned.kept coherent).rewritten item.1 checked.rewritten
    exact mirrors.write own codec item' (item.1.storable coherent hooks item.2 checked) id
  purge id item events mirrors _ := by
    have item' := (Item.IsOwned.kept coherent).rewritten item.1 events.rewritten
    rw [item'.model_eq]
    exact (mirrors.purge own codec item' id).removeFromIndices id
  purgeRefused id item events mirrors _ := by
    have item' := (Item.IsOwned.kept coherent).rewritten item.1 events.rewritten
    exact mirrors.purge own codec item' id

end Operations

end EntityStore
