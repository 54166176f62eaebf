import EntityStore.Item.Lifecycle
import EntityStore.Proofs.Index.Current
import EntityStore.Storage.Memory

set_option autoImplicit false

/-! # Building indices anew may fail

The indices of a model are emptied before the store is asked for anything. When the store then
fails, because it does not list the keys or does not give one of the records, the items that were
read up to there are in the indices, and no others (`reindex_failed`): what the indices held before
is lost (`failed_reindex_loses_entries`). -/

namespace EntityStore

variable {σ W : Type}

/-! ## Items that are read -/

/-- The item whose record is under a key, with the properties for which the record stands. There is
none if the key is not that of an item, or the record is not given. -/
def Model.storedItem? (m : Model σ W) (adapter : Adapter W) (store : W) (key : String) :
    Option (Uuid × Properties) := do
  let id ← m.keys.id? key
  let record ← (adapter.read key store).toOption
  return (id, m.pipeline.deserialize record)

/-- The store fails when the indices of a model are built anew, after it has given the records of
some items. -/
inductive BreaksOff (m : Model σ W) (adapter : Adapter W) (store : W) (e : StorageError) :
    List (Uuid × Properties) → Prop
  /-- The keys are not listed. -/
  | unlisted (answer : adapter.keys m.keys.base store = .error e) : BreaksOff m adapter store e []
  /-- One of the listed keys is that of an item, and its record is not given; the records of all
  items before it are. -/
  | unread {before after : List String} {key : String}
      (answer : adapter.keys m.keys.base store = .ok (before ++ key :: after))
      (given : ∀ k ∈ before, (m.keys.id? k).isSome = true →
        ∃ record, adapter.read k store = .ok record)
      (item : (m.keys.id? key).isSome = true) (refused : adapter.read key store = .error e) :
      BreaksOff m adapter store e (before.filterMap (m.storedItem? adapter store))

/-! ## Entering items -/

/-- An index with a definition takes the values of items, one after the other. -/
def Model.enterInto (m : Model σ W) (d : IndexDefinition) (items : List (Uuid × Properties))
    (content : SortedIndex) : SortedIndex :=
  items.foldl (fun content (id, bag) => content.insert id (m.indexedValue d bag)) content

/-- An index that was emptied and then took the values of items. -/
def ModelIndex.refilled (m : Model σ W) (items : List (Uuid × Properties)) (x : ModelIndex) :
    ModelIndex :=
  { x with content := m.enterInto x.definition items x.content.clear }

/-- What an index holds is what it held, or the value of an item that it took. -/
theorem Model.mem_enterInto {m : Model σ W} {d : IndexDefinition}
    {items : List (Uuid × Properties)} {content : SortedIndex} {entry : Value × Uuid}
    (h : entry ∈ (m.enterInto d items content).entries) :
    entry ∈ content.entries ∨ ∃ item ∈ items, entry = (m.indexedValue d item.2, item.1) := by
  induction items generalizing content with
  | nil => exact .inl h
  | cons item rest ih =>
    rcases ih h with entered | ⟨other, later, rfl⟩
    · rcases SortedIndex.mem_insert.1 entered with rfl | ⟨held, -⟩
      · exact .inr ⟨item, .head _, rfl⟩
      · exact .inl held
    · exact .inr ⟨other, .tail _ later, rfl⟩

namespace Session

/-- Let the indices of a model take the values of items, one after the other. -/
def enter (s : Session σ W) (m : Model σ W) (items : List (Uuid × Properties)) : Session σ W :=
  items.foldl (fun s (id, bag) => s.updateIndices m id bag) s

variable {m : Model σ W} {s t : Session σ W}

theorem setIndices_setIndices (s : Session σ W) (m : Model σ W) (l l' : List ModelIndex) :
    (s.setIndices m l).setIndices m l' = s.setIndices m l' := by
  unfold setIndices
  congr 1
  funext n
  dsimp only
  split <;> rfl

/-- Only the indices of the model change when items are entered. -/
theorem enter_setIndices (s : Session σ W) (m : Model σ W) (items : List (Uuid × Properties))
    (l : List ModelIndex) :
    (s.setIndices m l).enter m items = s.setIndices m
      (l.map fun x => { x with content := m.enterInto x.definition items x.content }) := by
  induction items generalizing l with
  | nil => exact congrArg _ (List.map_id' l).symm
  | cons item rest ih =>
    have first : (s.setIndices m l).updateIndices m item.1 item.2 = s.setIndices m (l.map fun x =>
        { x with content := x.content.insert item.1 (m.indexedValue x.definition item.2) }) := by
      rw [updateIndices, mapIndices, indicesOf_setIndices, if_pos rfl, setIndices_setIndices]
      rfl
    show ((s.setIndices m l).updateIndices m item.1 item.2).enter m rest = _
    rw [first, ih, List.map_map]
    rfl

theorem enter_clearIndices (s : Session σ W) (m : Model σ W) (items : List (Uuid × Properties)) :
    (s.clearIndices m).enter m items =
      s.setIndices m ((s.indicesOf m).map (ModelIndex.refilled m items)) := by
  rw [clearIndices, mapIndices, enter_setIndices, List.map_map]
  rfl

/-- Entering records ends with the first one that is not given; those before it are entered. -/
theorem indexKeys_error {adapter : Adapter W} {l : List String} {count : Nat} {e : ModelError}
    (h : indexKeys m adapter l count s = (.error e, t)) :
    ∃ before key after fault, l = before ++ key :: after ∧
      (∀ k ∈ before, (m.keys.id? k).isSome = true →
        ∃ record, adapter.read k s.store = .ok record) ∧
      (m.keys.id? key).isSome = true ∧ adapter.read key s.store = .error fault ∧
      e = .storage fault ∧ t = s.enter m (before.filterMap (m.storedItem? adapter s.store)) := by
  induction l generalizing s count with
  | nil => exact absurd (Prod.ext_iff.1 h).1 (by simp [indexKeys])
  | cons key rest ih =>
    unfold indexKeys at h
    split at h
    · next other =>
      -- The key is not that of an item.
      obtain ⟨before, k, after, fault, rfl, given, item, refused, cause, entered⟩ := ih h
      refine ⟨key :: before, k, after, fault, rfl, ?_, item, refused, cause, ?_⟩
      · exact List.forall_mem_cons.2 ⟨fun named => by simp [other] at named, given⟩
      · rw [List.filterMap_cons_none (by simp [Model.storedItem?, other])]
        exact entered
    · next id named =>
      split at h
      · next fault refused =>
        obtain ⟨cause, rfl⟩ := Prod.mk.inj h
        exact ⟨[], key, rest, fault, rfl, nofun, by rw [named]; rfl, refused,
          (Except.error.inj cause).symm, rfl⟩
      · next record read =>
        -- The item is entered, which leaves the store as it is.
        obtain ⟨before, k, after, fault, rfl, given, item, refused, cause, entered⟩ := ih h
        refine ⟨key :: before, k, after, fault, rfl, ?_, item, refused, cause, ?_⟩
        · exact List.forall_mem_cons.2 ⟨fun _ => ⟨record, read⟩, given⟩
        · have stored : m.storedItem? adapter s.store key =
              some (id, m.pipeline.deserialize record) := by
            simp [Model.storedItem?, named, read, Except.toOption]
          rw [List.filterMap_cons_some stored]
          exact entered

/-! ## Failures -/

/-- If building the indices of a model anew fails, the store has broken off after some items. Then
only the indices of the model have changed, and each of them holds the values of these items and
nothing else, whatever it held before. -/
theorem reindex_failed {e : ModelError} (failed : (s.reindex m).1 = .error e) :
    ∃ fault items, e = .storage fault ∧
      BreaksOff m (s.observedAdapter m) s.store fault items ∧
      (s.reindex m).2 = s.setIndices m ((s.indicesOf m).map (ModelIndex.refilled m items)) ∧
      ∀ x ∈ (s.reindex m).2.indicesOf m, ∀ entry ∈ x.content.entries,
        ∃ item ∈ items, entry = (m.indexedValue x.definition item.2, item.1) := by
  have brokenOff : ∃ fault items, e = .storage fault ∧
      BreaksOff m (s.observedAdapter m) s.store fault items ∧
      (s.reindex m).2 = (s.clearIndices m).enter m items := by
    unfold reindex at failed ⊢
    dsimp only at failed ⊢
    split at failed
    · next fault answer =>
      exact ⟨fault, [], (Except.error.inj failed).symm, .unlisted answer, rfl⟩
    · next keys answer =>
      obtain ⟨before, key, after, fault, rfl, given, item, refused, cause, entered⟩ :=
        indexKeys_error (t := (indexKeys m _ keys 0 (s.clearIndices m)).2) (Prod.ext failed rfl)
      exact ⟨fault, _, cause, .unread answer given item refused, entered⟩
  obtain ⟨fault, items, cause, breaksOff, entered⟩ := brokenOff
  rw [enter_clearIndices] at entered
  refine ⟨fault, items, cause, breaksOff, entered, ?_⟩
  rw [entered, indicesOf_setIndices, if_pos rfl]
  intro x hx entry he
  obtain ⟨y, -, rfl⟩ := List.mem_map.1 hx
  exact (Model.mem_enterInto he).resolve_left List.not_mem_nil

end Session

/-! A diary with two days, one of which cannot be read any more. -/

/-- The diary is kept in memory. -/
def diaryContext : ModelContext Memory := { adapter := Memory.adapter 1 true }

/-- The model of the days of a diary, which are found by their mood. -/
def diaryModel : Model Unit Memory :=
  (Model.compile diaryContext 1 "Day"
    (Draft.property {} "mood" { default := some (.string "calm"), index := some (.enabled true) })
    (.root diaryContext) none).toOption.get (by decide +kernel)

/-- Save the day with an identity. -/
def saveDay (id : Uuid) (s : Session Unit Memory) : Session Unit Memory :=
  (ItemRun.save.run.run (Item.create diaryModel (some id) none none, s)).2.2

/-- A memory whose medium refuses to give the record under a key. -/
def Memory.damagedAt (key : String) : Adapter Memory :=
  { Memory.adapter 1 true with
    read := fun k m => if k = key then .error .medium else Memory.read k m }

/-- Two days have been saved, and then the record of the second is damaged. -/
def damagedDiary : Session Unit Memory :=
  { saveDay (.ofNat 7) (saveDay (.ofNat 4) { store := {}, notes := (), identities := .ofNat }) with
    observed := fun _ => some (Memory.damagedAt (diaryModel.keys.key (.ofNat 7))) }

/-- What the indices of the diary hold. -/
def diaryEntries (s : Session Unit Memory) : List (List (Value × Uuid)) :=
  (s.indicesOf diaryModel).map fun x => x.content.entries

namespace Session

theorem reindex_damagedDiary :
    (damagedDiary.reindex diaryModel).1 = .error (.storage .medium) := by rfl

theorem reindex_failed_diary :
    ∃ items, BreaksOff diaryModel (damagedDiary.observedAdapter diaryModel) damagedDiary.store
        .medium items ∧
      (damagedDiary.reindex diaryModel).2 = damagedDiary.setIndices diaryModel
        ((damagedDiary.indicesOf diaryModel).map (ModelIndex.refilled diaryModel items)) ∧
      diaryEntries (damagedDiary.reindex diaryModel).2 = [[(.string "calm", .ofNat 4)]] := by
  obtain ⟨fault, items, cause, breaksOff, left, -⟩ := reindex_failed reindex_damagedDiary
  obtain rfl := ModelError.storage.inj cause
  exact ⟨items, breaksOff, left, by decide +kernel⟩

/-- An index may lose entries for items whose records are still there. -/
theorem failed_reindex_loses_entries :
    ¬ ∀ (m : Model Unit Memory) (s : Session Unit Memory) (e : ModelError),
      (s.reindex m).1 = .error e →
      ((s.reindex m).2.indicesOf m).map (fun x => x.content.entries) =
        (s.indicesOf m).map fun x => x.content.entries := by
  intro kept
  have same : diaryEntries (damagedDiary.reindex diaryModel).2 = diaryEntries damagedDiary :=
    kept diaryModel damagedDiary (.storage .medium) reindex_damagedDiary
  exact absurd same (by decide +kernel)

end Session

end EntityStore
