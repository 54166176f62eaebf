import EntityStore.Proofs.Storage.Depot
import EntityStore.Proofs.Storage.Refinement

set_option autoImplicit false

/-! # Listings are complete

An adapter that lists the keys below a base lists each of them once, and none is missing under
which it gives a record (`Adapter.Lists`). That is so in memory, for files in a folder tree that is
closed, and for each store of a depot (`Depot.lists`), whatever they hold and whoever put it
there. -/

namespace EntityStore

variable {W : Type}

/-- The keys that an adapter lists below a base. -/
structure Adapter.Lists (a : Adapter W) (base : String) (w : W) (listed : List String) : Prop where
  answer : a.keys base w = .ok listed
  /-- No key is listed twice. -/
  nodup : listed.Nodup
  below : ∀ key ∈ listed, Key.isBelow key base = true
  /-- All keys are listed under which there is a record that can be read. -/
  complete : ∀ key record, Key.isBelow key base = true → a.read key w = .ok record → key ∈ listed

variable {base key : String} {listed : List String}

/-- It is enough that what is listed is picked out of different names, among which are all keys
that can be read. -/
theorem Adapter.lists_of_perm {a : Adapter W} {w : W} {names : List String}
    (answer : a.keys base w = .ok listed) (filled : base ≠ "") (distinct : names.Nodup)
    (picked : listed.Perm (names.filter fun key => base.isEmpty || Key.isBelow key base))
    (there : ∀ key record, a.read key w = .ok record → key ∈ names) : a.Lists base w listed := by
  have named : base.isEmpty = false := by rwa [← Bool.not_eq_true, String.isEmpty_iff]
  simp only [named, Bool.false_or] at picked
  refine ⟨answer, picked.nodup_iff.2 (distinct.filter _), fun key found => ?_,
    fun key record below given => ?_⟩
  · exact (List.mem_filter.1 (picked.mem_iff.1 found)).2
  · exact picked.mem_iff.2 (List.mem_filter.2 ⟨there key record given, below⟩)

/-! ## Memory -/

namespace Memory

theorem get?_of_read {m : Memory} {record : Record} (given : m.read key = .ok record) :
    m.records.get? key = some record := by
  unfold read at given
  cases valid : Storage.checkKey key with
  | error e => exact absurd given (by simp [valid, bind, Except.bind])
  | ok =>
    cases stored : m.records.get? key with
    | none => exact absurd given (by simp [valid, stored, bind, Except.bind])
    | some other => simpa [valid, stored, bind, Except.bind, pure, Except.pure] using given

theorem eq_of_keys {m : Memory} (answer : m.keys base = .ok listed) :
    listed = m.records.names.filter fun key => base.isEmpty || Key.isBelow key base := by
  unfold keys at answer
  cases valid : Storage.checkBase base with
  | error e => exact absurd answer (by simp [valid, bind, Except.bind])
  | ok => simpa [valid, bind, Except.bind, pure, Except.pure, eq_comm] using answer

end Memory

/-! ## Files -/

/-- A walk that finds a file has gone down its path. -/
theorem Folder.get?_of_walk {f : Folder} {above rest : List String} {text : String}
    (found : f.walk above rest = .file text) :
    f.get? (Key.ofSegments (above ++ rest)) = some (.file text) := by
  induction rest generalizing above with
  | nil => cases found
  | cons name rest ih =>
    cases isName : Folder.isName name with
    | false => exact absurd found (by simp [walk, isName])
    | true =>
      rw [walk_cons isName] at found
      split at found
      · cases found
      · rw [← List.singleton_append, ← List.append_assoc]
        exact ih found
      · next there => rwa [Found.file.inj found] at there
      · cases found

namespace Files

theorem get?_of_read {f : Folder} {record : Record} (given : read key f = .ok record) :
    ∃ text, f.get? (key ++ ".json") = some (.file text) := by
  unfold read at given
  cases valid : Storage.checkKey key with
  | error e => exact absurd given (by simp [valid, bind, Except.bind])
  | ok =>
    rw [← ofSegments_filePath]
    cases found : f.find (filePath key) with
    | file text =>
      unfold Folder.find at found
      split at found
      · have there := Folder.get?_of_walk found
        rw [List.nil_append] at there
        exact ⟨text, there⟩
      · exact nomatch found
    | folder | absent | refused =>
      exact absurd given (by simp [valid, found, bind, Except.bind])

theorem eq_of_keys {f : Folder} (answer : keys base f = .ok listed) :
    listed = ((f.filePaths.filterMap keyOfPath?).filter fun key =>
      base.isEmpty || Key.isBelow key base).mergeSort fun a b => decide (a ≤ b) := by
  unfold keys at answer
  cases valid : Storage.checkBase base with
  | error e => exact absurd answer (by simp [valid, bind, Except.bind])
  | ok => simpa [valid, bind, Except.bind, pure, Except.pure, eq_comm] using answer

end Files

/-! ## Depots -/

/-- A store that keeps its records in files keeps them in a closed tree. -/
def Store.IsClosed : Store → Prop
  | .files f => f.IsClosed
  | .memory _ _ | .readOnly => True

namespace Depot

/-- Each store of a depot lists all that it holds, if its files are in a closed tree. -/
theorem lists {origin d : Depot} {n : Nat} (closed : (d.store n).IsClosed) (filled : base ≠ "")
    (answer : (origin.adapter n).keys base d = .ok listed) :
    (origin.adapter n).Lists base d listed := by
  have asked : (d.store n).keys base = .ok listed := answer
  have reads {key : String} {record : Record}
      (given : (origin.adapter n).read key d = .ok record) : (d.store n).read key = .ok record :=
    given
  cases store : d.store n with
  | memory binary m =>
    rw [store] at asked reads
    refine Adapter.lists_of_perm answer filled m.records.names_nodup ?_ fun key record given => ?_
    · rw [Memory.eq_of_keys asked]
    · exact Bag.mem_names.2 ⟨record, Memory.get?_of_read (reads given)⟩
  | files f =>
    rw [store] at asked reads closed
    refine Adapter.lists_of_perm answer filled (Files.nodup_filterMap_keyOfPath? closed) ?_
      fun key record given => ?_
    · rw [Files.eq_of_keys asked]
      exact List.mergeSort_perm _ _
    · exact (Files.mem_filterMap_keyOfPath? closed).2 (Files.get?_of_read (reads given))
  | readOnly =>
    rw [store] at asked reads
    cases asked
    exact Adapter.lists_of_perm answer filled List.nodup_nil .nil fun key record given =>
      nomatch reads given

end Depot

end EntityStore
