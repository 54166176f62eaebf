import EntityStore.Proofs.Index.Current
import EntityStore.Proofs.Item.Stages
import EntityStore.Proofs.Storage.Memory

set_option autoImplicit false

/-! # Saving is all or nothing

Whatever the code for events does, saving an item has one of two ends. Either the item is not saved,
and apart from what code did to its properties nothing has happened (`NotSaved`), or it is saved for
good, in the store, in all indices and for itself (`Saved`). Which of them it is, the answer of the
store to the write decides (`save_stages`). -/

namespace EntityStore

variable {σ W : Type}

/-! ## What is asked of adapters -/

/-- A write that fails leaves the store as it was. -/
def Adapter.RefusesUnchanged (a : Adapter W) : Prop :=
  ∀ key record store e, (a.write key record store).1 = .error e →
    (a.write key record store).2 = store

/-- What was written last can be read. -/
def Adapter.ReadsBack (a : Adapter W) : Prop :=
  ∀ key record store, (a.write key record store).1 = .ok () →
    a.read key (a.write key record store).2 = .ok record

theorem Memory.refusesUnchanged (handle : Nat) (binary : Bool) :
    (adapter handle binary).RefusesUnchanged := by
  intro key record store e refused
  show (store.write key record).2 = store
  cases valid : Key.isValid key with
  | true =>
    have taken : (store.write key record).1 = .ok () := by rw [write_of_isValid valid]
    exact absurd (taken.symm.trans refused) (by simp)
  | false => rw [write_of_isValid_eq_false valid]

theorem Memory.readsBack (handle : Nat) (binary : Bool) : (adapter handle binary).ReadsBack := by
  intro key record store taken
  show (store.write key record).2.read key = .ok record
  cases valid : Key.isValid key with
  | true =>
    rw [write_of_isValid valid]
    refine read_of_isValid valid ?_
    rw [Bag.get?_insert, if_pos rfl]
  | false =>
    have refused : (store.write key record).1 = .error (.invalidKey key) := by
      rw [write_of_isValid_eq_false valid]
    exact absurd (refused.symm.trans taken) (by simp)

/-! ## The two ends -/

/-- Saving ended before the write or with it, and apart from what code did to properties and notes
nothing happened. -/
structure NotSaved (i : Item σ W) (s : Session σ W) (executed : List Stage)
    (r : Except ModelError Unit) (j : Item σ W) (t : Session σ W) : Prop where
  /-- No stage after the write was executed. -/
  early : executed <+: Stage.beforeWrite i.id.isNone ++ [.write]
  /-- The caller is told. -/
  failed : ∃ e, r = .error e
  /-- The store is as it was. -/
  store_eq : t.store = s.store
  /-- So are the indices of all models. -/
  indices_eq : ∀ m, t.indicesOf m = s.indicesOf m
  /-- The item is bound to what it was bound to before. -/
  id_eq : j.id = i.id
  /-- It counts as loaded if it did before. -/
  isLoaded_eq : j.isLoaded = i.isLoaded
  /-- The item and the notes are those that the code of the executed stages leaves. -/
  affected : (j, t.notes) = Stage.affectAll executed (i, s.notes)

/-- The item `w`, as the code before the write left it, was saved; `later` are the stages that were
executed after that. -/
structure Saved (i : Item σ W) (s : Session σ W) (executed : List Stage) (j : Item σ W)
    (t : Session σ W) (later : List Stage) (w : Item σ W) (notes : σ) : Prop where
  /-- All stages up to the update of the indices were executed. -/
  executed_eq : executed = Stage.beforeWrite i.id.isNone ++ .write :: .index :: later
  /-- The item that was written and the notes are those that the code before the write left. -/
  before : (w, notes) = Stage.affectAll (Stage.beforeWrite i.id.isNone) (i, s.notes)
  /-- The store took the record. -/
  answer : (w.writeUnder (i.identityIn s).1 s.store).1 = .ok ()
  /-- No other change was made to the store. -/
  store_eq : t.store = (w.writeUnder (i.identityIn s).1 s.store).2
  /-- What is stored under the key of the item is the record of its properties. -/
  stored : i.adapter.ReadsBack →
    i.adapter.read (i.model.keys.key (i.identityIn s).1) t.store =
      .ok (i.model.pipeline.serialize i.adapter.binary w.properties)
  /-- The indices of the model are the same ones. -/
  definitions_eq : (t.indicesOf i.model).map (·.definition) =
    (s.indicesOf i.model).map (·.definition)
  /-- Each of them holds the value that follows from the properties, and no other one. -/
  entry : ∀ x ∈ t.indicesOf i.model, ∀ v, (v, (i.identityIn s).1) ∈ x.content.entries ↔
    v = i.model.indexedValue x.definition w.properties
  /-- The item is bound to its identity. -/
  id_eq : j.id = some (i.identityIn s).1
  /-- It counts as loaded. -/
  isLoaded_eq : j.isLoaded = true
  /-- The item and the notes are those that the code after the write leaves. -/
  after : (j, t.notes) = Stage.affectAll later (w.markSaved (i.identityIn s).1, notes)

theorem Except.mapError_eq_ok {ε ε' α : Type} {f : ε → ε'} {x : Except ε α} {a : α} :
    x.mapError f = .ok a ↔ x = .ok a := by
  cases x with
  | ok b =>
    exact ⟨fun h => congrArg Except.ok (Except.ok.inj h),
      fun h => congrArg Except.ok (Except.ok.inj h)⟩
  | error e => exact ⟨nofun, nofun⟩

theorem Except.mapError_eq_error {ε ε' α : Type} {f : ε → ε'} {x : Except ε α} {e : ε'} :
    x.mapError f = .error e ↔ ∃ e', x = .error e' ∧ f e' = e := by
  cases x with
  | ok b => exact ⟨nofun, nofun⟩
  | error e' =>
    refine ⟨fun h => ⟨e', rfl, Except.error.inj h⟩, ?_⟩
    rintro ⟨_, same, eq⟩
    rw [← eq, ← Except.error.inj same]
    rfl

/-- What the update of the indices makes of those of the model. -/
theorem Stage.indicesOf_run_index (p : Progress σ W) :
    (Stage.index.run p).2.session.indicesOf p.item.model =
      (p.session.indicesOf p.item.model).map fun x =>
        { x with content := x.content.insert p.id
                  (p.item.model.indexedValue x.definition p.item.properties) } := by
  show ((p.session.log .index).updateIndices p.item.model p.id p.item.properties).indicesOf
    p.item.model = _
  rw [Session.updateIndices, Session.indicesOf_mapIndices]
  rfl

section Ends

variable {i : Item σ W} {s : Session σ W} {executed later : List Stage}
  {r : Except ModelError Unit} {p q z : Progress σ W}

theorem Progress.Goes.adapter_eq (go : p.Goes executed q) : q.item.adapter = p.item.adapter := by
  rw [go.events.rewritten.frame]
  rfl

theorem Progress.Goes.isLoaded_eq (go : p.Goes executed q) :
    q.item.isLoaded = p.item.isLoaded := by
  rw [go.events.rewritten.frame]
  rfl

/-- Nothing is saved where a stage before the write fails. -/
theorem Progress.Goes.notSaved (go : (i.toSave s).Goes executed z)
    (early : executed <+: Stage.beforeWrite i.id.isNone) (failed : ∃ e, r = .error e) :
    NotSaved i s executed r z.item z.session where
  early := early.trans (List.prefix_append _ _)
  failed := failed
  store_eq := go.quiet.store_eq
  indices_eq := go.quiet.indicesOf_eq
  id_eq := go.item_id_eq
  isLoaded_eq := go.isLoaded_eq
  affected := go.affected

/-- Nothing is saved where the write fails. -/
theorem Progress.Goes.notSaved_of_write
    (go : (i.toSave s).Goes (Stage.beforeWrite i.id.isNone) p)
    (unchanged : i.adapter.RefusesUnchanged) {e : ModelError}
    (run : Stage.write.run p = (.error e, z)) :
    NotSaved i s (Stage.beforeWrite i.id.isNone ++ [.write]) (.error e) z.item z.session := by
  have before := go.notSaved List.prefix_rfl ⟨e, rfl⟩
  obtain ⟨minted, written⟩ := Stage.run_write p
  obtain ⟨e', answer, -⟩ := Except.mapError_eq_error.1 (Prod.ext_iff.1 run).1
  have kept : (p.item.writeUnder p.id p.session.store).2 = p.session.store := by
    rw [← show p.item.adapter = i.adapter from go.adapter_eq] at unchanged
    exact unchanged _ _ _ e' answer
  rw [run, kept] at written
  subst written
  refine ⟨List.prefix_rfl, ⟨e, rfl⟩, before.store_eq, before.indices_eq, before.id_eq,
    before.isLoaded_eq, ?_⟩
  rw [Stage.affectAll, List.foldl_append]
  exact before.affected

/-- From a successful write on, the item is saved, whatever the code after it does. -/
theorem Progress.Goes.saved (go : (i.toSave s).Goes (Stage.beforeWrite i.id.isNone) p)
    (run : Stage.write.run p = (.ok (), q)) (after : (Stage.index.run q).2.Goes later z) :
    Saved i s (Stage.beforeWrite i.id.isNone ++ .write :: .index :: later) z.item z.session later
      p.item p.session.notes := by
  have answer := Except.mapError_eq_ok.1 (Prod.ext_iff.1 run).1
  obtain ⟨minted, written⟩ := Stage.run_write p
  rw [run] at written
  dsimp only at written
  subst written
  have id : p.id = (i.identityIn s).1 := go.id_eq
  have model : p.item.model = i.model := go.events.model_eq
  have store : p.session.store = s.store := go.quiet.store_eq
  rw [store, id] at answer
  have stored : z.session.store = (p.item.writeUnder (i.identityIn s).1 s.store).2 := by
    rw [after.quiet.store_eq, ← id, ← store]
    rfl
  have indices : z.session.indicesOf i.model = (s.indicesOf i.model).map fun x =>
      { x with content := x.content.insert (i.identityIn s).1
                (i.model.indexedValue x.definition p.item.properties) } := by
    have before := go.quiet.indicesOf_eq i.model
    rw [after.quiet.indicesOf_eq, ← model, Stage.indicesOf_run_index, model, id]
    exact congrArg (List.map _) before
  refine ⟨rfl, go.affected, answer, stored, fun reads => ?_, ?_, fun x hx v => ?_, ?_, ?_, ?_⟩
  · have adapter : p.item.adapter = i.adapter := go.adapter_eq
    rw [stored]
    unfold Item.writeUnder at answer ⊢
    rw [adapter, model] at answer ⊢
    exact reads _ _ _ answer
  · rw [indices, List.map_map]
    rfl
  · rw [indices] at hx
    obtain ⟨y, -, rfl⟩ := List.mem_map.1 hx
    simp [SortedIndex.mem_insert]
  · rw [after.item_id_eq, ← id]
    rfl
  · rw [after.isLoaded_eq]
    rfl
  · rw [← id]
    exact after.affected

end Ends

/-- Saving an item goes through its stages up to the first that fails. If the write is among the
stages that are not executed, or fails, then nothing has happened but what code did to properties
and notes. If the write succeeds the item is saved for good: in the store, in all indices, and for
itself, whatever comes of the code after that. -/
theorem save_stages (i : Item σ W) (s : Session σ W) (unchanged : i.adapter.RefusesUnchanged) :
    ItemRun.save.Ends (fun r j t => ∃ executed q,
      executed <+: Stage.plan i.id.isNone ∧
      Course (Stage.plan i.id.isNone) executed (i.toSave s) r q ∧ q.item = j ∧ q.session = t ∧
      (∃ steps, t.journal = s.journal ++ steps ∧
        steps.filterMap Step.stage? = executed.filter Stage.isNoted) ∧
      (NotSaved i s executed r j t ∨
        ∃ later w notes, Saved i s executed j t later w notes)) i s := by
  refine ItemRun.ends_mono (ItemRun.ends_save_course i s) ?_
  rintro r j t ⟨executed, z, course, rfl, rfl⟩
  refine ⟨executed, z, course.isPrefix, course, rfl, rfl, course.exists_journal_eq, ?_⟩
  rcases Course.append course with ⟨first, failed⟩ | ⟨p, rest, rfl, first, course⟩
  · exact .inl ((first.goes (quiet_beforeWrite _)).notSaved first.isPrefix failed)
  -- From here on the answer of the store decides.
  have go := first.goes (quiet_beforeWrite _)
  cases course with
  | failed run => exact .inl (go.notSaved_of_write unchanged run)
  | passed run course =>
    cases course with
    | failed run => exact absurd (Prod.ext_iff.1 run).1 (by simp [Stage.run])
    | @passed _ _ later _ q _ _ indexed course =>
      obtain rfl : (Stage.index.run _).2 = q := (Prod.ext_iff.1 indexed).2
      have after := course.goes (quiet_afterIndex _)
      exact .inr ⟨later, p.item, p.session.notes, go.saved run after⟩

/-! A voucher gets its title when it is saved, and the code that runs once it is stored fails. -/

/-- A voucher has a title, which is indexed, and code for two events. -/
def voucherDraft : Draft Unit :=
  { properties := [("title", { index := some (.enabled true) })]
    hooks := [("beforeSave", some (Script.assign "title" (.string "valid"))),
      ("afterCreate", some (.raise (.rejected "too late")))] }

/-- The model of vouchers, which are kept in memory. -/
def voucherModel : Model Unit Memory :=
  (Model.compile { adapter := Memory.adapter 1 true } 1 "Voucher" voucherDraft
    (.root { adapter := Memory.adapter 1 true }) none).toOption.get (by decide +kernel)

/-- A new voucher. -/
def newVoucher : Item Unit Memory := .create voucherModel none none none

/-- A session in which nothing is stored. -/
def voucherSession : Session Unit Memory := { store := {}, notes := (), identities := .ofNat }

theorem save_stages_voucher :
    ItemRun.save.Ends (fun _ j t => ∃ executed later w notes,
      Saved newVoucher voucherSession executed j t later w notes ∧
      (Memory.adapter 1 true).read (voucherModel.keys.key (.ofNat 0)) t.store =
        .ok (voucherModel.pipeline.serialize true w.properties)) newVoucher voucherSession := by
  have own : newVoucher.adapter = Memory.adapter 1 true := rfl
  obtain ⟨executed, q, -, -, -, -, -, ends⟩ :=
    save_stages newVoucher voucherSession (own ▸ Memory.refusesUnchanged 1 true)
  rcases ends with early | ⟨later, w, notes, saved⟩
  · -- The voucher has an identity in the end, so saving did not end early.
    have bound : (ItemRun.save.run.run (newVoucher, voucherSession)).2.1.id.isSome = true := by
      decide +kernel
    rw [early.id_eq] at bound
    exact absurd bound (by decide)
  · exact ⟨executed, later, w, notes, saved, saved.stored (own ▸ Memory.readsBack 1 true)⟩

end EntityStore
