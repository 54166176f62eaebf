import EntityStore.Proofs.Storage.Memory
import EntityStore.Storage.Depot

set_option autoImplicit false

/-! # A memory within a larger state

An adapter may work on a memory that is part of a larger state (`Adapter.Serves`). Of the adapters
of a depot, those of its memories do (`Depot.serves`), and each leaves alone what the others have
(`Depot.spares`). -/

namespace EntityStore

variable {W : Type}

/-- The adapter works on a memory that is part of a state as the memory itself does, as long as it
is there. -/
structure Adapter.Serves (a : Adapter W) (part : W → Option Memory) : Prop where
  has : ∀ {w m} key, part w = some m → a.has key w = m.has key
  read : ∀ {w m} key, part w = some m → a.read key w = m.read key
  write : ∀ {w m} key record, part w = some m →
    (a.write key record w).1 = (m.write key record).1 ∧
      part (a.write key record w).2 = some (m.write key record).2
  purge : ∀ {w m} key, part w = some m →
    (a.purge key w).1 = (m.purge key).1 ∧ part (a.purge key w).2 = some (m.purge key).2

/-- An adapter says the same about a key in two states. -/
def Adapter.SameAnswers (a : Adapter W) (key : String) (w w' : W) : Prop :=
  a.has key w' = a.has key w ∧ a.read key w' = a.read key w

namespace Adapter

variable {a : Adapter W} {part : W → Option Memory} {w w' : W} {m m' : Memory} {key other : String}

theorem Serves.sameAnswers (h : a.Serves part) (there : part w = some m)
    (there' : part w' = some m') (same : m'.records.get? key = m.records.get? key) :
    a.SameAnswers key w w' := by
  unfold SameAnswers
  rw [h.has key there, h.has key there', h.read key there, h.read key there']
  exact Memory.answers_congr same

/-- A write changes what is said about its key only. -/
theorem Serves.sameAnswers_write (h : a.Serves part) (there : part w = some m) (apart : other ≠ key)
    (record : Record) : a.SameAnswers other w (a.write key record w).2 :=
  h.sameAnswers there (h.write key record there).2 (Memory.get?_write apart record m)

/-- A removal changes what is said about keys below its key only. -/
theorem Serves.sameAnswers_purge (h : a.Serves part) (there : part w = some m)
    (apart : Key.isBelow other key = false) : a.SameAnswers other w (a.purge key w).2 :=
  h.sameAnswers there (h.purge key there).2 (Memory.get?_purge apart m)

/-- In the states that are meant, an adapter has a record under a key from when it takes one for the
key until it removes the key or one above it. -/
structure Keeps (a : Adapter W) (meant : W → Prop) : Prop where
  write : ∀ {w}, meant w → ∀ key record, meant (a.write key record w).2 ∧
    ∀ other, a.has other (a.write key record w).2 = .ok true ↔
      a.has other w = .ok true ∨ (a.write key record w).1 = .ok () ∧ other = key
  purge : ∀ {w}, meant w → ∀ key, meant (a.purge key w).2 ∧
    ∀ other, a.has other (a.purge key w).2 = .ok true ↔
      a.has other w = .ok true ∧ ¬((a.purge key w).1 = .ok () ∧ Key.isBelow other key = true)

/-- In the states that are meant, an adapter leaves alone what another one has. -/
structure Spares (b a : Adapter W) (meant : W → Prop) : Prop where
  write : ∀ {w}, meant w → ∀ key record, meant (b.write key record w).2 ∧
    ∀ other, a.has other (b.write key record w).2 = a.has other w
  purge : ∀ {w}, meant w → ∀ key, meant (b.purge key w).2 ∧
    ∀ other, a.has other (b.purge key w).2 = a.has other w

/-- Records in memory are kept. -/
theorem Serves.keeps (h : a.Serves part) : a.Keeps fun w => (part w).isSome = true where
  write there key record := by
    obtain ⟨m, there⟩ := Option.isSome_iff_exists.1 there
    obtain ⟨answer, after⟩ := h.write key record there
    refine ⟨by rw [after]; rfl, fun other => ?_⟩
    rw [h.has other after, h.has other there, answer]
    exact Memory.has_write key other record m
  purge there key := by
    obtain ⟨m, there⟩ := Option.isSome_iff_exists.1 there
    obtain ⟨answer, after⟩ := h.purge key there
    refine ⟨by rw [after]; rfl, fun other => ?_⟩
    rw [h.has other after, h.has other there, answer]
    exact Memory.has_purge key other m

end Adapter

theorem Memory.serves (handle : Nat) (binary : Bool) : (adapter handle binary).Serves some where
  has _ h := Option.some.inj h ▸ rfl
  read _ h := Option.some.inj h ▸ rfl
  write _ _ h := Option.some.inj h ▸ ⟨rfl, rfl⟩
  purge _ h := Option.some.inj h ▸ ⟨rfl, rfl⟩

namespace Depot

/-- The memory of a number, if there is one. -/
def memory? (n : Nat) (d : Depot) : Option Memory :=
  match d.store n with
  | .memory _ m => some m
  | .files _ | .readOnly => none

variable {d : Depot} {n : Nat} {m : Memory}

theorem store_setStore_of_ne {k : Nat} (other : k ≠ n) (s : Store) :
    (d.setStore n s).store k = d.store k := by
  unfold setStore store
  rw [Array.getElem?_setIfInBounds_ne (Ne.symm other)]

theorem store_eq_of_memory? (there : memory? n d = some m) :
    n < d.stores.size ∧ ∃ binary, d.store n = .memory binary m := by
  unfold memory? at there
  split at there
  · next binary memory eq =>
    refine ⟨?_, binary, by rw [eq, Option.some.inj there]⟩
    -- Where there is no store, there is no memory.
    refine Classical.byContradiction fun outside => ?_
    rw [store, Array.getElem?_eq_none (Nat.le_of_not_lt outside)] at eq
    exact absurd eq (by simp)
  · exact absurd there (by simp)
  · exact absurd there (by simp)

theorem memory?_setStore (inside : n < d.stores.size) (binary : Bool) (m : Memory) :
    memory? n (d.setStore n (.memory binary m)) = some m := by
  have eq : (d.setStore n (.memory binary m)).store n = .memory binary m := by
    unfold setStore store
    rw [Array.getElem?_setIfInBounds_self_of_lt inside]
    rfl
  unfold memory?
  rw [eq]

/-- The adapter of a memory works on it. -/
theorem serves (origin : Depot) (n : Nat) : (origin.adapter n).Serves (memory? n) where
  has key there := by
    obtain ⟨-, binary, eq⟩ := store_eq_of_memory? there
    simp only [adapter, eq, Store.has]
  read key there := by
    obtain ⟨-, binary, eq⟩ := store_eq_of_memory? there
    simp only [adapter, eq, Store.read]
  write key record there := by
    obtain ⟨inside, binary, eq⟩ := store_eq_of_memory? there
    simp only [adapter, eq, Store.write]
    exact ⟨rfl, memory?_setStore inside binary _⟩
  purge key there := by
    obtain ⟨inside, binary, eq⟩ := store_eq_of_memory? there
    simp only [adapter, eq, Store.purge]
    exact ⟨rfl, memory?_setStore inside binary _⟩

/-- An adapter leaves the stores of other numbers as they are. -/
theorem spares (origin origin' : Depot) {k : Nat} (other : k ≠ n) :
    (origin.adapter n).Spares (origin'.adapter k) fun d => (memory? k d).isSome = true := by
  have stored {d e : Depot} (same : e.store k = d.store k) (there : (memory? k d).isSome = true) :
      (memory? k e).isSome = true ∧
        ∀ key, (origin'.adapter k).has key e = (origin'.adapter k).has key d := by
    refine ⟨?_, fun key => congrArg (Store.has key) same⟩
    unfold memory? at there ⊢
    rwa [same]
  constructor
  · exact fun there _ _ => stored (store_setStore_of_ne other _) there
  · exact fun there _ => stored (store_setStore_of_ne other _) there

end Depot

end EntityStore
