import EntityStore.Proofs.Storage.Files
import EntityStore.Proofs.Storage.Listing
import EntityStore.Proofs.Value.Record

set_option autoImplicit false

/-! # Files hold records like a memory does

A folder tree holds the records of a memory (`Files.Holds`) if its files are the texts of these
records, each under its key with the ending of records. Whatever is asked then, the tree and the
memory give the same answer, and the tree holds the records of the memory afterwards. -/

namespace EntityStore

namespace Adapter

variable {W : Type}

/-- What a store of records is asked. -/
inductive Call
  | has (key : String)
  | read (key : String)
  | write (key : String) (record : Record)
  | purge (key : String)
  | keys (base : String)

/-- What a store of records answers if it does not fail. -/
inductive Answer
  | done
  | found (there : Bool)
  | record (record : Record)
  | keys (keys : List String)

/-- The answer to a call, and the state after it. -/
def answer (a : Adapter W) (w : W) : Call → Except StorageError Answer × W
  | .has key => ((a.has key w).map .found, w)
  | .read key => ((a.read key w).map .record, w)
  | .write key record =>
    let (r, w) := a.write key record w
    (r.map fun _ => .done, w)
  | .purge key =>
    let (r, w) := a.purge key w
    (r.map fun _ => .done, w)
  | .keys base => ((a.keys base w).map .keys, w)

/-- The answers to calls, one after the other, and the state after them. -/
def answers (a : Adapter W) (w : W) : List Call → List (Except StorageError Answer) × W
  | [] => ([], w)
  | call :: rest =>
    let (first, w) := a.answer w call
    let (others, w) := a.answers w rest
    (first :: others, w)

namespace Call

/-- Whether the key of a call is refused or a plain one, and a record has plain values. -/
def isPlain : Call → Bool
  | .has key | .read key | .purge key => !Key.isValid key || Files.isPlainKey key
  | .write key record => (!Key.isValid key || Files.isPlainKey key) &&
    record.entries.all fun e => e.2.isPlain
  | .keys _ => true

/-- The numbers that are to be printed. -/
def numbers : Call → List Binary64
  | .write _ record => Value.numbers record.entries
  | _ => []

end Call

end Adapter

namespace Files

theorem isPlainKey_of_isValid {key : String}
    (h : (!Key.isValid key || isPlainKey key) = true) (valid : Key.isValid key = true) :
    isPlainKey key = true := by
  rwa [valid, Bool.not_true, Bool.false_or] at h

/-! ## Trees that hold the records of a memory -/

/-- The tree holds the records of the memory, and no other files. -/
structure Holds (f : Folder) (m : Memory) : Prop where
  closed : f.IsClosed
  /-- The file of a key is the text of the record under the key. -/
  file : ∀ key, f.get? (key ++ ".json") =
    (m.records.get? key).map fun record => .file (Value.recordText record)
  /-- There are no other files. -/
  named : ∀ path text, f.get? path = some (.file text) → ∃ key, path = key ++ ".json"
  /-- No folder can be taken for the file of a record. -/
  folders : ∀ path, f.get? path = some .folder → isPlainKey path = true
  readable : ∀ key record, m.records.get? key = some record →
    Value.recordOfText (Value.recordText record) = .ok record

/-- The paths of files of records are the keys with their ending. -/
theorem keyOfPath?_eq_some {path key : String} :
    keyOfPath? path = some key ↔ path = key ++ ".json" := by
  unfold keyOfPath?
  dsimp only
  have front (key : String) : (key ++ ".json").toList.take
      ((key ++ ".json").toList.length - ".json".toList.length) = key.toList := by
    rw [String.toList_append, List.length_append, Nat.add_sub_cancel, List.take_left]
  rw [Option.ite_none_right_eq_some, List.isSuffixOf_iff_suffix]
  constructor
  · rintro ⟨⟨start, eq⟩, named⟩
    obtain rfl : path = String.ofList start ++ ".json" := String.toList_injective (by simp [← eq])
    rw [front, String.ofList_toList] at named
    rw [Option.some.inj named]
  · rintro rfl
    rw [front, String.ofList_toList, String.toList_append]
    exact ⟨List.suffix_append _ _, rfl⟩

/-- The keys that are found are those of the files with their ending. -/
theorem mem_filterMap_keyOfPath? {f : Folder} (closed : f.IsClosed) {key : String} :
    key ∈ f.filePaths.filterMap keyOfPath? ↔
      ∃ text, f.get? (key ++ ".json") = some (.file text) := by
  rw [List.mem_filterMap, ← closed.mem_filePaths]
  simp only [keyOfPath?_eq_some, exists_eq_right]

theorem nodup_filterMap_keyOfPath? {f : Folder} (closed : f.IsClosed) :
    (f.filePaths.filterMap keyOfPath?).Nodup := by
  refine closed.nodup_filePaths.filterMap fun path path' key here there => ?_
  rw [keyOfPath?_eq_some.1 here, keyOfPath?_eq_some.1 there]

namespace Holds

variable {f : Folder} {m : Memory} {key : String}

theorem start : Holds {} {} where
  closed := ⟨rfl, fun _ _ _ there => absurd rfl there⟩
  file _ := rfl
  named _ _ h := absurd h (by simp [Folder.get?])
  folders _ h := absurd h (by simp [Folder.get?])
  readable _ _ h := absurd h (by simp)

theorem walkable (h : Holds f m) : IsWalkable f where
  closed := h.closed
  clear path text plain file := by
    obtain ⟨key, eq⟩ := h.named path text file
    exact ne_of_isPlainKey plain (.inl rfl) key eq

theorem place (h : Holds f m) (key : String) : f.get? (key ++ ".json") ≠ some .folder :=
  fun folder => ne_of_isPlainKey (h.folders _ folder) (.inl rfl) key rfl

theorem noDraft (h : Holds f m) (key : String) : f.get? (key ++ ".json.tmp") = none := by
  cases there : f.get? (key ++ ".json.tmp") with
  | none => rfl
  | some e =>
    cases e with
    | folder => exact absurd rfl (ne_of_isPlainKey (h.folders _ there) (.inr rfl) key)
    | file text =>
      obtain ⟨key', eq⟩ := h.named _ _ there
      exact absurd eq.symm (append_ending_ne key' key)

theorem find_filePath (h : Holds f m) (plain : isPlainKey key = true) : f.find (filePath key) =
    ((m.records.get? key).map fun record => .file (Value.recordText record)).getD .absent := by
  rw [h.walkable.reaches_filePath plain, ofSegments_filePath, h.file, Option.map_map]
  rfl

/-! ## Operations -/

theorem has_eq (h : Holds f m) (plain : Key.isValid key = true → isPlainKey key = true) :
    Files.has key f = m.has key := by
  unfold Files.has Memory.has
  cases valid : Key.isValid key with
  | false =>
    rw [Storage.checkKey, valid]
    rfl
  | true =>
    rw [Memory.checkKey_of_isValid valid, h.find_filePath (plain valid), Bag.contains]
    cases m.records.get? key <;> rfl

theorem read_eq (h : Holds f m) (plain : Key.isValid key = true → isPlainKey key = true) :
    Files.read key f = m.read key := by
  unfold Files.read Memory.read
  cases valid : Key.isValid key with
  | false =>
    rw [Storage.checkKey, valid]
    rfl
  | true =>
    rw [Memory.checkKey_of_isValid valid, h.find_filePath (plain valid)]
    cases stored : m.records.get? key with
    | none => rfl
    | some record =>
      simp only [Option.map_some, Option.getD_some, h.readable key record stored]

/-- A record is written to its file. -/
theorem write (h : Holds f m) (plain : Key.isValid key = true → isPlainKey key = true)
    {record : Record} (readable : Value.recordOfText (Value.recordText record) = .ok record) :
    (Files.write key record f).1 = (m.write key record).1 ∧
      Holds (Files.write key record f).2 (m.write key record).2 := by
  cases valid : Key.isValid key with
  | false =>
    rw [Memory.write_of_isValid_eq_false valid, Files.write, Storage.checkKey, valid]
    exact ⟨rfl, h⟩
  | true =>
    have plain := plain valid
    obtain ⟨g, writes, closed, file, folders, others⟩ :=
      h.walkable.write_eq plain (h.place key) (h.noDraft key) record
    rw [writes, Memory.write_of_isValid valid]
    refine ⟨rfl, closed, fun other => ?_, fun path text there => ?_, fun path there => ?_,
      fun other record' stored => ?_⟩
    · rw [Bag.get?_insert]
      by_cases same : other = key
      · rw [same, if_pos rfl, file]
        rfl
      · have apart := not_isAbove_of_isPlainKey plain (.inl rfl) other
        rw [others _ (mt (String.append_left_inj _).1 same) apart, if_neg same, h.file]
    · by_cases same : path = key ++ ".json"
      · exact ⟨key, same⟩
      · by_cases above : Key.IsAbove path key
        · rw [folders path above] at there
          exact absurd there (by simp)
        · exact h.named path text (others path same above ▸ there)
    · by_cases same : path = key ++ ".json"
      · rw [same, file] at there
        exact absurd there (by simp)
      · by_cases above : Key.IsAbove path key
        · exact isPlainKey_above above plain
        · exact h.folders path (others path same above ▸ there)
    · rw [Bag.get?_insert] at stored
      split at stored
      · rwa [← Option.some.inj stored]
      · exact h.readable other record' stored

/-- With a record, those below it are removed. -/
theorem purge (h : Holds f m) (plain : Key.isValid key = true → isPlainKey key = true) :
    (Files.purge key f).1 = (m.purge key).1 ∧ Holds (Files.purge key f).2 (m.purge key).2 := by
  cases valid : Key.isValid key with
  | false =>
    rw [Files.purge, Memory.purge, Storage.checkKey, valid]
    exact ⟨rfl, h⟩
  | true =>
    have plain := plain valid
    obtain ⟨g, purges, closed, answer⟩ := h.walkable.purge_eq plain (h.place key)
    rw [purges, Memory.purge_of_isValid valid]
    have still {path : String} {e : FolderEntry} (there : g.get? path = some e) :
        f.get? path = some e := by
      rw [answer] at there
      exact (Option.ite_none_left_eq_some.1 there).2
    -- A file is below the key if its record is.
    have below (other : String) : (other ++ ".json" = key ++ ".json" ∨
        Key.isBelow (other ++ ".json") key = true) ↔ Key.isBelow other key = true := by
      have noFile : ¬ other ++ ".json" = key := fun eq =>
        ne_of_isPlainKey plain (.inl rfl) other eq.symm
      rw [Key.isBelow_iff, Key.isBelow_iff, String.append_left_inj, isAbove_append_iff (by decide)]
      simp only [noFile, false_or]
    refine ⟨rfl, closed, fun other => ?_, fun path text there => h.named path text (still there),
      fun path there => h.folders path (still there), fun other record stored => ?_⟩
    · rw [answer, Bag.get?_filter, h.file]
      simp only [below]
      cases Key.isBelow other key <;> cases m.records.get? other <;> rfl
    · rw [Bag.get?_filter, Option.filter_eq_some_iff] at stored
      exact h.readable other record stored.1

theorem mem_keys (h : Holds f m) {key : String} :
    key ∈ f.filePaths.filterMap keyOfPath? ↔ key ∈ m.records.names := by
  rw [mem_filterMap_keyOfPath? h.closed, Bag.mem_names, h.file]
  cases m.records.get? key <;> simp

/-- The keys that are found are those of the memory, in the same order. -/
theorem keys_eq (h : Holds f m) (base : String) : Files.keys base f = m.keys base := by
  have distinct := nodup_filterMap_keyOfPath? h.closed
  have same : (((f.filePaths.filterMap keyOfPath?).filter fun key =>
      base.isEmpty || Key.isBelow key base).mergeSort fun a b => decide (a ≤ b)) =
      m.records.names.filter fun key => base.isEmpty || Key.isBelow key base := by
    refine List.eq_of_ascending ?_ (m.records.ascending_names.sublist List.filter_sublist)
      fun key => ?_
    · exact List.ascending_mergeSort (distinct.filter _)
    · rw [List.mem_mergeSort, List.mem_filter, List.mem_filter, h.mem_keys]
  unfold Files.keys Memory.keys
  simp only [same]

/-- Every call is answered alike. -/
theorem answer (h : Holds f m) (handle other : Nat) (binary : Bool) {call : Adapter.Call}
    (plain : call.isPlain = true) (lossless : ∀ x ∈ call.numbers, Value.isLossless x = true) :
    ((adapter handle).answer f call).1 = ((Memory.adapter other binary).answer m call).1 ∧
      Holds ((adapter handle).answer f call).2 ((Memory.adapter other binary).answer m call).2 := by
  cases call with
  | has key =>
    have same := h.has_eq (isPlainKey_of_isValid plain)
    exact ⟨congrArg (Except.map Adapter.Answer.found) same, h⟩
  | read key =>
    have same := h.read_eq (isPlainKey_of_isValid plain)
    exact ⟨congrArg (Except.map Adapter.Answer.record) same, h⟩
  | keys base => exact ⟨congrArg (Except.map Adapter.Answer.keys) (h.keys_eq base), h⟩
  | purge key =>
    obtain ⟨same, holds⟩ := h.purge (isPlainKey_of_isValid plain)
    exact ⟨congrArg (Except.map fun _ => Adapter.Answer.done) same, holds⟩
  | write key record =>
    obtain ⟨named, values⟩ := Bool.and_eq_true _ _ ▸ plain
    have readable := Value.recordOfText_recordText (List.all_eq_true.1 values) lossless
    obtain ⟨same, holds⟩ := h.write (isPlainKey_of_isValid named) readable
    exact ⟨congrArg (Except.map fun _ => Adapter.Answer.done) same, holds⟩

theorem answers (h : Holds f m) (handle other : Nat) (binary : Bool) {calls : List Adapter.Call}
    (plain : ∀ call ∈ calls, call.isPlain = true)
    (lossless : ∀ call ∈ calls, ∀ x ∈ call.numbers, Value.isLossless x = true) :
    ((adapter handle).answers f calls).1 = ((Memory.adapter other binary).answers m calls).1 ∧
      Holds ((adapter handle).answers f calls).2
        ((Memory.adapter other binary).answers m calls).2 := by
  induction calls generalizing f m with
  | nil => exact ⟨rfl, h⟩
  | cons call rest ih =>
    obtain ⟨first, plain⟩ := List.forall_mem_cons.1 plain
    obtain ⟨first', lossless⟩ := List.forall_mem_cons.1 lossless
    obtain ⟨same, holds⟩ := h.answer handle other binary first first'
    obtain ⟨others, holds⟩ := ih holds plain lossless
    exact ⟨congrArg₂ List.cons same others, holds⟩

end Holds

/-- Files that hold no records at first and a memory that takes texts only: to all calls, one after
the other, they give the same answers. Keys that are refused may be any texts, the segments of
others are plain names; records have plain values, and their numbers are not lost in print. -/
theorem answers_eq_memory (handle other : Nat) (calls : List Adapter.Call)
    (plain : ∀ call ∈ calls, call.isPlain = true)
    (lossless : ∀ call ∈ calls, ∀ x ∈ call.numbers, Value.isLossless x = true) :
    ((adapter handle).answers {} calls).1 = ((Memory.adapter other false).answers {} calls).1 :=
  (Holds.start.answers handle other false plain lossless).1

/-- A record with a value of each kind that is plain. -/
def parcel : Record := .ofList [("weight", .number (.ofRatio true 5 2)), ("count", .integer (-7)),
  ("label", .string "a\"b\n"), ("fragile", .bool true), ("note", .null)]

/-- Records at several depths are written, replaced, read, listed and removed; two keys are
refused. -/
def parcelCalls : List Adapter.Call :=
  [.write "depot" parcel, .write "depot/shelf/box" parcel, .write "depot2" .empty,
    .write "depot" .empty, .has "depot/shelf", .read "depot/shelf/box", .keys "depot",
    .write "depot//box" parcel, .read "..", .purge "depot/shelf", .has "depot/shelf/box",
    .purge "depot", .read "depot", .keys ""]

theorem answers_eq_memory_parcels :
    (∀ call ∈ parcelCalls, call.isPlain = true) ∧
      (∀ call ∈ parcelCalls, ∀ x ∈ call.numbers, Value.isLossless x = true) ∧
      (((adapter 0).answers {} parcelCalls).1.map Except.isOk =
        [true, true, true, true, true, true, true, false, false, true, true, true, false, true]) ∧
      ((adapter 0).answers {} parcelCalls).1 =
        ((Memory.adapter 1 false).answers {} parcelCalls).1 :=
  have plain : ∀ call ∈ parcelCalls, call.isPlain = true := by decide +kernel
  have lossless : ∀ call ∈ parcelCalls, ∀ x ∈ call.numbers, Value.isLossless x = true := by
    decide +kernel
  ⟨plain, lossless, by decide +kernel, answers_eq_memory 0 1 parcelCalls plain lossless⟩

end Files

end EntityStore
