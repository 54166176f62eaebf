import EntityStore.Storage.Files
import EntityStore.Storage.Memory

set_option autoImplicit false

/-! # Several stores side by side

A `Depot` is a numbered collection of stores of the kinds of this library. The adapter with the
handle `n` works on the store of that number and leaves the others alone; where there is no such
store, nothing is stored and writes are refused, as with a store that only pretends to be one. -/

namespace EntityStore

inductive Store
  /-- Records in memory; `binary` tells whether it takes bytes as they are. -/
  | memory (binary : Bool) (memory : Memory)
  | files (folder : Folder)
  /-- A store that is empty and refuses records. -/
  | readOnly

namespace Store

def name : Store → String
  | .memory _ _ => "memory"
  | .files _ => "file"
  | .readOnly => "read-only"

def binary : Store → Bool
  | .memory binary _ => binary
  | .files _ | .readOnly => false

def has (key : String) : Store → Except StorageError Bool
  | .memory _ m => m.has key
  | .files f => Files.has key f
  | .readOnly => .ok false

def read (key : String) : Store → Except StorageError Record
  | .memory _ m => m.read key
  | .files f => Files.read key f
  | .readOnly => .error (.notFound key)

def write (key : String) (record : Record) : Store → Except StorageError Unit × Store
  | .memory b m => (m.write key record).map id (.memory b)
  | .files f => (Files.write key record f).map id .files
  | .readOnly => (.error (.invalidKey "read-only"), .readOnly)

/-- Remove the records under and below a key. -/
def purge (key : String) : Store → Except StorageError Unit × Store
  | .memory b m => (m.purge key).map id (.memory b)
  | .files f => (Files.purge key f).map id .files
  | .readOnly => (.ok (), .readOnly)

/-- The keys of the records under and below a key, or of all records if it is empty. -/
def keys (base : String) : Store → Except StorageError (List String)
  | .memory _ m => m.keys base
  | .files f => Files.keys base f
  | .readOnly => .ok []

end Store

/-- A numbered collection of stores. -/
structure Depot where
  stores : Array Store := #[]

namespace Depot

/-- The store of a number. -/
def store (d : Depot) (n : Nat) : Store := d.stores[n]?.getD .readOnly

/-- Put another store in the place of the one of a number. -/
def setStore (d : Depot) (n : Nat) (s : Store) : Depot := ⟨d.stores.setIfInBounds n s⟩

/-- Add a store; its number is that of the stores before. -/
def add (d : Depot) (s : Store) : Nat × Depot := (d.stores.size, ⟨d.stores.push s⟩)

/-- The operations on the store of a number. -/
def adapter (d : Depot) (n : Nat) : Adapter Depot :=
  { handle := n
    name := (d.store n).name
    binary := (d.store n).binary
    has := fun key d => (d.store n).has key
    read := fun key d => (d.store n).read key
    write := fun key record d => ((d.store n).write key record).map id (d.setStore n)
    purge := fun key d => ((d.store n).purge key).map id (d.setStore n)
    keys := fun base d => (d.store n).keys base }

end Depot

end EntityStore
