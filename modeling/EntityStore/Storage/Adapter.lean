import EntityStore.Storage.Key
import EntityStore.Value.Document

set_option autoImplicit false

/-! # Adapters: what a store of records can do

An `Adapter W` is a set of operations on a state of type `W` that holds records under keys. Models
and items know stores through adapters only, so `W` may be a single store or a collection of them
(see `Depot`). An operation that fails gives the reason; a failing `write` or `purge` also gives
the state it leaves behind. -/

namespace EntityStore

/-- Why a store did not do what it was asked to. -/
inductive StorageError
  | notFound (key : String)
  | invalidKey (key : String)
  /-- What is stored under the key is not a record. -/
  | unreadable (fault : Json.Fault)
  /-- The medium refused. -/
  | medium

def StorageError.message : StorageError → String
  | .notFound key => s!"record not found: {key}"
  | .invalidKey key => s!"invalid key: {key}"
  | .unreadable fault => s!"serialization error: {fault.message}"
  | .medium => "IO error"

/-- The operations of a store of records, on a state of type `W`. -/
structure Adapter (W : Type) where
  /-- Tells adapters apart. -/
  handle : Nat
  name : String
  /-- Whether bytes can be stored as they are. -/
  binary : Bool
  has : String → W → Except StorageError Bool
  read : String → W → Except StorageError Record
  write : String → Record → W → Except StorageError Unit × W
  /-- Remove the record under a key and all records below it. -/
  purge : String → W → Except StorageError Unit × W
  /-- The keys of the records under and below a key, or of all records if it is empty, in
  ascending order. -/
  keys : String → W → Except StorageError (List String)

namespace Storage

/-- Go on if a text is a key. -/
def checkKey (key : String) : Except StorageError Unit :=
  if Key.isValid key then .ok () else .error (.invalidKey key)

/-- Go on if a text is a key or empty. -/
def checkBase (base : String) : Except StorageError Unit :=
  if base.isEmpty then .ok () else checkKey base

end Storage

end EntityStore
