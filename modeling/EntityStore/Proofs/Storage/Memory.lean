import EntityStore.Proofs.Bag
import EntityStore.Storage.Memory

set_option autoImplicit false

/-! # Under keys, records in memory are within reach

Nothing but a text that is no key makes an operation on records in memory fail, except that there
may be no record to read. -/

namespace EntityStore.Memory

variable {key : String}

theorem checkKey_of_isValid (valid : Key.isValid key = true) : Storage.checkKey key = .ok () :=
  if_pos valid

theorem write_of_isValid (valid : Key.isValid key = true) (record : Record) (m : Memory) :
    m.write key record = (.ok (), ⟨m.records.insert key record⟩) := by
  unfold write
  rw [checkKey_of_isValid valid]

theorem write_of_isValid_eq_false (invalid : Key.isValid key = false) (record : Record)
    (m : Memory) : m.write key record = (.error (.invalidKey key), m) := by
  unfold write Storage.checkKey
  rw [invalid]
  rfl

theorem purge_of_isValid (valid : Key.isValid key = true) (m : Memory) :
    m.purge key = (.ok (), ⟨m.records.filter fun k _ => !Key.isBelow k key⟩) := by
  unfold purge
  rw [checkKey_of_isValid valid]

theorem purge_of_isValid_eq_false (invalid : Key.isValid key = false) (m : Memory) :
    m.purge key = (.error (.invalidKey key), m) := by
  unfold purge Storage.checkKey
  rw [invalid]
  rfl

theorem has_of_isValid (valid : Key.isValid key = true) (m : Memory) :
    m.has key = .ok (m.records.contains key) := by
  unfold has
  rw [checkKey_of_isValid valid]
  rfl

theorem read_of_isValid (valid : Key.isValid key = true) {record : Record} {m : Memory}
    (stored : m.records.get? key = some record) : m.read key = .ok record := by
  unfold read
  rw [checkKey_of_isValid valid, stored]
  rfl

/-- If all records are below a key, all keys are found there. -/
theorem keys_of_isBelow (valid : Key.isValid key = true) {m : Memory}
    (below : ∀ name ∈ m.records.names, Key.isBelow name key = true) :
    m.keys key = .ok m.records.names := by
  have check : Storage.checkBase key = .ok () := by
    unfold Storage.checkBase
    rw [checkKey_of_isValid valid, ite_self]
  have all : (m.records.names.filter fun name => key.isEmpty || Key.isBelow name key) =
      m.records.names :=
    List.filter_eq_self.2 fun name h => by rw [below name h, Bool.or_true]
  unfold keys
  rw [check, all]
  rfl

/-! ## What a write or a removal leaves alone -/

variable {m m' : Memory} {other : String}

@[simp]
theorem get?_write (apart : other ≠ key) (record : Record) (m : Memory) :
    (m.write key record).2.records.get? other = m.records.get? other := by
  cases valid : Key.isValid key with
  | true => rw [write_of_isValid valid, Bag.get?_insert, if_neg apart]
  | false => rw [write_of_isValid_eq_false valid]

@[simp]
theorem get?_purge (apart : Key.isBelow other key = false) (m : Memory) :
    (m.purge key).2.records.get? other = m.records.get? other := by
  cases valid : Key.isValid key with
  | true =>
    rw [purge_of_isValid valid, Bag.get?_filter, apart]
    cases m.records.get? other <;> rfl
  | false => rw [purge_of_isValid_eq_false valid]

/-- What is under a key decides about all answers for it. -/
theorem answers_congr (same : m.records.get? key = m'.records.get? key) :
    m.has key = m'.has key ∧ m.read key = m'.read key := by
  unfold has read Bag.contains
  rw [same]
  exact ⟨rfl, rfl⟩

/-! ## Which records there are -/

theorem has_iff : m.has key = .ok true ↔
    Key.isValid key = true ∧ ∃ record, m.records.get? key = some record := by
  cases valid : Key.isValid key with
  | true =>
    rw [has_of_isValid valid, Except.ok.injEq, Bag.contains, Option.isSome_iff_exists]
    simp
  | false =>
    unfold has Storage.checkKey
    rw [valid]
    simp [bind, Except.bind]

/-- After a write there is what was there before, and what was written if it was taken. -/
theorem has_write (key other : String) (record : Record) (m : Memory) :
    (m.write key record).2.has other = .ok true ↔
      m.has other = .ok true ∨ (m.write key record).1 = .ok () ∧ other = key := by
  cases valid : Key.isValid key with
  | true =>
    rw [write_of_isValid valid, has_iff, has_iff, Bag.get?_insert]
    by_cases same : other = key
    · simp [same, valid]
    · simp [same]
  | false => simp [write_of_isValid_eq_false valid]

/-- After a removal there is what was there before and is not below the key, if that was taken. -/
theorem has_purge (key other : String) (m : Memory) : (m.purge key).2.has other = .ok true ↔
    m.has other = .ok true ∧ ¬((m.purge key).1 = .ok () ∧ Key.isBelow other key = true) := by
  cases valid : Key.isValid key with
  | true =>
    rw [purge_of_isValid valid, has_iff, has_iff, Bag.get?_filter]
    cases Key.isBelow other key <;> cases m.records.get? other <;> simp [Option.filter]
  | false => simp [purge_of_isValid_eq_false valid]

end EntityStore.Memory
