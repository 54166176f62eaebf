import EntityStore.Storage.Adapter

set_option autoImplicit false

/-! # Records in memory

The plainest store: a bag of records by key. -/

namespace EntityStore

/-- A store that keeps its records in memory. -/
structure Memory where
  records : Bag Record := Bag.empty

namespace Memory

def has (key : String) (m : Memory) : Except StorageError Bool := do
  Storage.checkKey key
  return m.records.contains key

def read (key : String) (m : Memory) : Except StorageError Record := do
  Storage.checkKey key
  match m.records.get? key with
  | some record => return record
  | none => throw (.notFound key)

/-- Store a record under a key in place of any other. -/
def write (key : String) (record : Record) (m : Memory) : Except StorageError Unit × Memory :=
  match Storage.checkKey key with
  | .ok () => (.ok (), { m with records := m.records.insert key record })
  | .error e => (.error e, m)

/-- Remove the records under and below a key. -/
def purge (key : String) (m : Memory) : Except StorageError Unit × Memory :=
  match Storage.checkKey key with
  | .ok () => (.ok (), { m with records := m.records.filter fun k _ => !Key.isBelow k key })
  | .error e => (.error e, m)

/-- The keys of the records under and below a key, or of all records if it is empty. -/
def keys (base : String) (m : Memory) : Except StorageError (List String) := do
  Storage.checkBase base
  return m.records.names.filter fun key => base.isEmpty || Key.isBelow key base

/-- The operations on a memory; `binary` tells whether it takes bytes as they are. -/
def adapter (handle : Nat) (binary : Bool) : Adapter Memory :=
  { handle, name := "memory", binary, has, read, write, purge, keys }

end Memory

end EntityStore
