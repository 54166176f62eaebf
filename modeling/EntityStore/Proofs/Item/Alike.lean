import EntityStore.Proofs.Item.Twin

set_option autoImplicit false

/-! # Operations end alike over two kinds of memories

The same operation, once with a model that keeps its items in a memory that takes bytes as they are
and once with the model that keeps them in one that takes texts only, ends alike
(`ItemRun.Alike`): with the same result, with items that differ in the adapter of their model only,
and with sessions that differ in the form of the records only. There is a rule for each step, and
operations follow step by step. The code of the model must not see the adapter (`Model.IsBlind`). -/

namespace EntityStore

variable {σ α β : Type} {m : Model σ Memory} {a : Adapter Memory}

/-- How an operation ends: the result, the item and the session. -/
abbrev Ending (σ α : Type) := Except ModelError α × Item σ Memory × Session σ Memory

/-- Two ends that differ in the adapter of the model and the form of the records only. -/
structure Ending.Alike (m : Model σ Memory) (a : Adapter Memory) (p q : Ending σ α) : Prop where
  /-- The result is the same. -/
  result_eq : q.1 = p.1
  /-- The item is one of the model. -/
  isOf : p.2.1.IsOf m
  /-- The other item is the same, but for the adapter. -/
  item_eq : q.2.1 = p.2.1.upon a
  /-- The sessions are the same, but for the records. -/
  sessions : Session.Twin m.pipeline p.2.2 q.2.2

namespace ItemRun

/-- Started alike, two operations end alike. -/
def Alike (m : Model σ Memory) (a : Adapter Memory) (x y : ItemRun σ Memory α) : Prop :=
  ∀ i s t, i.IsOf m → Session.Twin m.pipeline s t →
    Ending.Alike m a (x.run.run (i, s)) (y.run.run (i.upon a, t))

/-! ## Rules -/

theorem alike_pure (r : α) : Alike m a (pure r) (pure r : ItemRun σ Memory α) :=
  fun _ _ _ hi hs => ⟨rfl, hi, rfl, hs⟩

theorem alike_throw (e : ModelError) : Alike m a (throw e) (throw e : ItemRun σ Memory α) :=
  fun _ _ _ hi hs => ⟨rfl, hi, rfl, hs⟩

theorem alike_bind {x y : ItemRun σ Memory α} {f g : α → ItemRun σ Memory β} (first : Alike m a x y)
    (next : ∀ r, Alike m a (f r) (g r)) : Alike m a (x >>= f) (y >>= g) := by
  intro i s t hi hs
  obtain ⟨result, isOf, item, sessions⟩ := first i s t hi hs
  rw [run_bind, run_bind]
  rcases hx : x.run.run (i, s) with ⟨r, j, u⟩
  rcases hy : y.run.run (i.upon a, t) with ⟨r', j', u'⟩
  rw [hx, hy] at result item sessions
  rw [hx] at isOf
  obtain rfl : r' = r := result
  obtain rfl : j' = j.upon a := item
  cases r' with
  | ok r => exact next r j u u' isOf sessions
  | error e => exact ⟨rfl, isOf, rfl, sessions⟩

theorem alike_item_bind {f g : Item σ Memory → ItemRun σ Memory β}
    (next : ∀ i, i.IsOf m → Alike m a (f i) (g (i.upon a))) :
    Alike m a (item >>= f) (item >>= g) :=
  fun i s t hi hs => next i hi i s t hi hs

/-- A condition that is the same on both sides. -/
theorem alike_ite {c : Prop} [Decidable c] {x y x' y' : ItemRun σ Memory α} (pos : Alike m a x x')
    (neg : Alike m a y y') : Alike m a (if c then x else y) (if c then x' else y') := by
  split
  · exact pos
  · exact neg

/-- An operation under a condition, and then another one. -/
theorem alike_when {c : Bool} {x y : ItemRun σ Memory Unit} {f g : Unit → ItemRun σ Memory β}
    (first : Alike m a x y) (next : Alike m a (f ()) (g ())) :
    Alike m a (if c = true then x >>= f else f ()) (if c = true then y >>= g else g ()) :=
  alike_ite (alike_bind first fun _ => next) next

theorem alike_attempt {x y : ItemRun σ Memory α} (h : Alike m a x y) :
    Alike m a (attempt x) (attempt y) := by
  intro i s t hi hs
  obtain ⟨result, isOf, item, sessions⟩ := h i s t hi hs
  exact ⟨congrArg Except.ok result, isOf, item, sessions⟩

/-- Steps that are the same but for the record are noted alike. -/
theorem alike_note {step step' : Step} (same : step'.withoutRecord = step.withoutRecord) :
    Alike m a (note step) (note step') :=
  fun _ _ _ hi hs => ⟨rfl, hi, rfl, hs.log same⟩

theorem alike_modifyItem {f g : Item σ Memory → Item σ Memory}
    (same : ∀ i, i.IsOf m → (f i).IsOf m ∧ g (i.upon a) = (f i).upon a) :
    Alike m a (modifyItem f) (modifyItem g) :=
  fun i _ _ hi hs => ⟨rfl, (same i hi).1, (same i hi).2, hs⟩

theorem alike_withOutcome (outcome : Option (Except ModelError Unit)) :
    Alike m a (modifyItem ({ · with outcome })) (modifyItem ({ · with outcome })) :=
  alike_modifyItem fun _ hi => ⟨⟨hi.model_eq, hi.ownAdapter_eq⟩, rfl⟩

/-- Blind code goes the same way on both items. -/
theorem alike_perform (blind : m.IsBlind) {code : Script σ α} (hcode : code.IsBlind) :
    Alike m a (perform code) (perform code) := by
  intro i s t hi hs
  have isOf := (Item.kept_isOf m).rewritten hi (i.rewritten_runScript code s.notes)
  rw [run_perform, run_perform, hs.notes_eq,
    Item.runScript_upon code hcode i s.notes (hi.model_eq ▸ blind)]
  exact ⟨rfl, isOf, rfl, hs.withNotes _⟩

theorem alike_identity : Alike m a (identity : ItemRun σ Memory Uuid) identity := by
  refine alike_item_bind fun i _ => ?_
  dsimp only [Item.upon]
  cases i.id with
  | some id => exact alike_pure id
  | none => exact alike_throw _

theorem alike_fire (blind : m.IsBlind) (e : LifecycleEvent) : Alike m a (fire e) (fire e) := by
  refine alike_bind (alike_note rfl) fun _ => alike_item_bind fun i hi => ?_
  have same : (i.upon a).model.hook? e = m.hook? e := by rw [← hi.model_eq]; rfl
  rw [same, hi.model_eq]
  cases declared : m.hook? e with
  | some code => exact alike_perform blind (blind.hook e code declared)
  | none => exact alike_pure ()

theorem alike_decideConflict (action : String) :
    Alike m a (decideConflict action) (decideConflict action) := by
  refine alike_bind (alike_note rfl) fun _ => alike_item_bind fun i _ => ?_
  have same : (i.upon a).onUnsaved = i.onUnsaved := rfl
  rw [same]
  cases i.onUnsaved with
  | ignore => exact alike_pure ()
  | warn => exact alike_note rfl
  | fail => exact alike_bind alike_identity fun id => alike_throw _

/-! ## Steps that ask the store -/

/-- What an operation gives, from what it ends with. -/
theorem run_of_ends {α : Type} {x : ItemRun σ Memory α} {i : Item σ Memory} {s : Session σ Memory}
    {p : Except ModelError α × Item σ Memory × Session σ Memory}
    (ends : (x >>= pure).Ends (fun r j t => (r, j, t) = p) i s) : x.run.run (i, s) = p := by
  rw [bind_pure] at ends
  exact ends

theorem run_identityToSave (i : Item σ Memory) (s : Session σ Memory) :
    identityToSave.run.run (i, s) = (.ok (i.identityIn s).1, i, (i.identityIn s).2) :=
  run_of_ends ((ends_identityToSave_bind pure).2 rfl)

theorem run_readRecord (id : Uuid) (i : Item σ Memory) (s : Session σ Memory) :
    (readRecord id).run.run (i, s) =
      ((i.readUnder id s.store).mapError .storage, i, s.afterRead i id) := by
  refine run_of_ends ((ends_readRecord_bind id pure).2 ?_)
  cases i.readUnder id s.store <;> rfl

theorem run_writeRecord (id : Uuid) (i : Item σ Memory) (s : Session σ Memory) :
    (writeRecord id).run.run (i, s) =
      ((i.writeUnder id s.store).1.mapError .storage, i, s.afterWrite i id) := by
  refine run_of_ends ((ends_writeRecord_bind id pure).2 ?_)
  cases (i.writeUnder id s.store).1 <;> rfl

theorem run_purgeRecord (id : Uuid) (i : Item σ Memory) (s : Session σ Memory) :
    (purgeRecord id).run.run (i, s) =
      ((i.purgeUnder id s.store).1.mapError .storage, i, s.afterPurge i id) := by
  refine run_of_ends ((ends_purgeRecord_bind id pure).2 ?_)
  cases (i.purgeUnder id s.store).1 <;> rfl

theorem alike_identityToSave :
    Alike m a (identityToSave : ItemRun σ Memory Uuid) identityToSave := by
  intro i s t hi hs
  rw [run_identityToSave, run_identityToSave]
  unfold Item.identityIn
  have same : (i.upon a).id = i.id := rfl
  rw [same]
  cases i.id with
  | some id => exact ⟨rfl, hi, rfl, hs⟩
  | none => exact ⟨congrArg Except.ok hs.mint.1, hi, rfl, hs.mint.2⟩

theorem alike_becomeSaved (id : Uuid) :
    Alike m a (becomeSaved id : ItemRun σ Memory Unit) (becomeSaved id) := by
  intro i s t hi hs
  have noted : Session.Twin m.pipeline (s.log .index) (t.log .index) := hs.log rfl
  have sessions := noted.mapIndices i.model a fun d content =>
    content.insert id (d.reduce ((i.model.value? d.property i.properties).getD .null))
  exact ⟨rfl, ⟨hi.model_eq, hi.ownAdapter_eq⟩, rfl, sessions⟩

/-- The entries of the item are taken out of the indices, and it is not loaded any more. -/
theorem alike_forget (id : Uuid) :
    Alike m a (modify fun (i, s) => ({ i with outcome := none }, s.removeFromIndices i.model id))
      (modify fun (i, s) => ({ i with outcome := none }, s.removeFromIndices i.model id)) := by
  intro i s t hi hs
  exact ⟨rfl, (Item.kept_isOf m).withOutcome none hi, rfl,
    hs.mapIndices i.model a fun _ content => content.remove id⟩

section Store

variable {handle other : Nat} (own : m.adapter = Memory.adapter handle true)
include own

/-- A record is read on both sides in one of its two forms, or on neither side. -/
theorem alike_readRecord_bind (id : Uuid) {f g : Record → ItemRun σ Memory β}
    (next : ∀ bag, Alike m (Memory.adapter other false) (f (m.pipeline.serialize true bag))
      (g (m.pipeline.serialize false bag))) :
    Alike m (Memory.adapter other false) (readRecord id >>= f) (readRecord id >>= g) := by
  intro i s t hi hs
  have left : i.readUnder id s.store = s.store.read (m.keys.key id) := by
    rw [Item.readUnder, hi.adapter_eq, own, hi.model_eq]
    rfl
  have right : (i.upon (Memory.adapter other false)).readUnder id t.store =
      t.store.read (m.keys.key id) := by
    rw [Item.readUnder, hi.adapter_upon, ← hi.model_eq]
    rfl
  rw [run_bind, run_bind, run_readRecord, run_readRecord]
  unfold Session.afterRead
  rw [left, right]
  obtain ⟨bag, here, there⟩ | ⟨e, here, there⟩ := hs.stores.read (m.keys.key id)
  · rw [here, there]
    exact next bag i _ _ hi (hs.log rfl)
  · rw [here, there]
    exact ⟨rfl, hi, rfl, hs.log rfl⟩

theorem alike_writeRecord (id : Uuid) :
    Alike m (Memory.adapter other false) (writeRecord id) (writeRecord id) := by
  intro i s t hi hs
  have left : i.writeUnder id s.store =
      s.store.write (m.keys.key id) (m.pipeline.serialize true i.properties) := by
    rw [Item.writeUnder, hi.adapter_eq, own, hi.model_eq]
    rfl
  have right : (i.upon (Memory.adapter other false)).writeUnder id t.store =
      t.store.write (m.keys.key id) (m.pipeline.serialize false i.properties) := by
    rw [Item.writeUnder, hi.adapter_upon, ← hi.model_eq]
    rfl
  obtain ⟨answer, stores⟩ := hs.stores.write (m.keys.key id) i.properties
  rw [run_writeRecord, run_writeRecord]
  unfold Session.afterWrite
  rw [left, right, answer]
  exact ⟨rfl, hi, rfl, (hs.withStore stores).log rfl⟩

theorem alike_purgeRecord (id : Uuid) :
    Alike m (Memory.adapter other false) (purgeRecord id) (purgeRecord id) := by
  intro i s t hi hs
  have left : i.purgeUnder id s.store = s.store.purge (m.keys.key id) := by
    rw [Item.purgeUnder, hi.adapter_eq, own, hi.model_eq]
    rfl
  have right : (i.upon (Memory.adapter other false)).purgeUnder id t.store =
      t.store.purge (m.keys.key id) := by
    rw [Item.purgeUnder, hi.adapter_upon, ← hi.model_eq]
    rfl
  obtain ⟨answer, stores⟩ := hs.stores.purge (m.keys.key id)
  rw [run_purgeRecord, run_purgeRecord]
  unfold Session.afterPurge
  rw [left, right, answer]
  exact ⟨rfl, hi, rfl, (hs.withStore stores).log rfl⟩

end Store

/-! ## Operations -/

section Operations

variable (blind : m.IsBlind)
include blind

theorem alike_validate : Alike m a (validate : ItemRun σ Memory (List Violation)) validate := by
  refine alike_bind (alike_fire blind _) fun _ => alike_bind (alike_note rfl) fun _ => ?_
  refine alike_item_bind fun i _ => alike_bind (alike_fire blind _) fun _ => alike_pure _

theorem alike_setMember (name : String) (v : Value) :
    Alike m a (setMember name v : ItemRun σ Memory Unit) (setMember name v) :=
  alike_perform blind fun _ => Script.isBlind_ofExcept

theorem alike_callMember (name : String) (args : List Value) :
    Alike m a (callMember name args : ItemRun σ Memory Value) (callMember name args) :=
  alike_perform blind fun _ => Script.isBlind_ofExcept

variable {handle other : Nat} (own : m.adapter = Memory.adapter handle true)
  (pipeline : m.pipeline = .ofSection m.schema.properties)
include own

theorem alike_save : Alike m (Memory.adapter other false) (save : ItemRun σ Memory Unit) save := by
  refine alike_item_bind fun i _ => alike_when (alike_decideConflict _) ?_
  refine alike_bind (alike_validate blind) fun violations => alike_ite (alike_throw _) ?_
  refine alike_bind (alike_fire blind _) fun _ => alike_item_bind fun i _ => ?_
  refine alike_when (alike_fire blind _) (alike_bind alike_identityToSave fun id => ?_)
  refine alike_bind (alike_writeRecord own id) fun _ => ?_
  refine alike_bind (alike_becomeSaved id) fun _ => ?_
  exact alike_when (f := fun _ => fire .afterSave) (g := fun _ => fire .afterSave)
    (alike_fire blind _) (alike_fire blind _)

theorem alike_remove :
    Alike m (Memory.adapter other false) (remove : ItemRun σ Memory Unit) remove := by
  refine alike_bind alike_identity fun id => alike_bind (alike_fire blind _) fun _ => ?_
  refine alike_bind (alike_purgeRecord own id) fun _ => alike_bind (alike_note rfl) fun _ => ?_
  exact alike_bind (alike_forget id) fun _ => alike_fire blind _

include pipeline

theorem alike_loadRecord (id : Uuid) :
    Alike m (Memory.adapter other false) (loadRecord id : ItemRun σ Memory Unit)
      (loadRecord id) := by
  refine alike_bind (alike_fire blind _) fun _ => alike_readRecord_bind own id fun bag => ?_
  refine alike_bind (alike_modifyItem fun i hi => ⟨⟨hi.model_eq, hi.ownAdapter_eq⟩, ?_⟩) fun _ =>
    alike_fire blind _
  -- The same properties are restored from both forms.
  have restored : i.model.pipeline.deserialize (m.pipeline.serialize false bag) =
      i.model.pipeline.deserialize (m.pipeline.serialize true bag) := by
    rw [hi.model_eq, pipeline, Pipeline.deserialize_serialize_binary]
  unfold Item.upon
  dsimp only [Model.upon]
  rw [restored]

theorem alike_load : Alike m (Memory.adapter other false) (load : ItemRun σ Memory Unit) load := by
  refine alike_item_bind fun i _ => ?_
  dsimp only [Item.upon]
  rcases i.outcome with _ | e | ⟨⟩
  · refine alike_bind alike_identity fun id => alike_when (alike_decideConflict _) ?_
    refine alike_bind (alike_attempt (alike_loadRecord blind own pipeline id)) fun outcome => ?_
    refine alike_bind (alike_withOutcome _) fun _ => ?_
    rcases outcome with e | ⟨⟩
    · exact alike_throw e
    · exact alike_pure ()
  · exact alike_throw e
  · exact alike_pure ()

theorem alike_reload :
    Alike m (Memory.adapter other false) (reload : ItemRun σ Memory Unit) reload := by
  exact alike_bind (alike_withOutcome none) fun _ => alike_load blind own pipeline

end Operations

end ItemRun

end EntityStore
