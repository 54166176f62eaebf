import EntityStore.Error

set_option autoImplicit false

/-! # Scripts: the code of hooks and methods

A `Script` is what code attached to a model may do to the item it runs on: read, write and call its
members, have it checked, look at its state, export it, look at the adapter of its model, keep notes
of its own (of type `σ`), fail, and finish. It is a tree: at each step stands what is done, and the
continuation for each answer. So a script always ends, and whoever runs it decides what the steps
mean.

Code does not wait, so it neither loads, saves or removes items nor asks a store for records. Nor
does it look up items or change the entries of indices: these belong to the model, not to the
item. -/

namespace EntityStore

/-- What code sees of the item it runs on. -/
structure ItemView where
  id : Option Uuid
  /-- The key of its record. -/
  key : Option String
  /-- Whether the item has been loaded or saved. -/
  isLoaded : Bool
  hasChanged : Bool
  changed : Names
  properties : Properties

/-- What code sees of an adapter. -/
structure AdapterView where
  name : String
  /-- Whether bytes can be stored as they are. -/
  binary : Bool

/-- Code that runs on an item, keeps notes of type `σ` and gives a result of type `α`. -/
inductive Script (σ : Type) (α : Type)
  | done (a : α)
  | raise (e : ModelError)
  | get (name : String) (next : Except ModelError Value → Script σ α)
  | set (name : String) (v : Value) (next : Except ModelError Unit → Script σ α)
  | call (name : String) (args : List Value) (next : Except ModelError Value → Script σ α)
  /-- Check the item; the code for the events around the check runs, too. -/
  | validate (next : Except ModelError (List Violation) → Script σ α)
  | inspect (next : ItemView → Script σ α)
  /-- Export the item, in stored form or as it is. -/
  | toObject (stored : Bool) (next : Properties → Script σ α)
  /-- Look at the adapter of the model. -/
  | adapter (next : AdapterView → Script σ α)
  /-- Look at the notes. -/
  | recall (next : σ → Script σ α)
  /-- Replace the notes. -/
  | record (notes : σ) (next : Script σ α)

namespace Script

variable {σ α β : Type}

/-- Do one thing after another. -/
def bind : Script σ α → (α → Script σ β) → Script σ β
  | .done a, f => f a
  | .raise e, _ => .raise e
  | .get name next, f => .get name fun r => (next r).bind f
  | .set name v next, f => .set name v fun r => (next r).bind f
  | .call name args next, f => .call name args fun r => (next r).bind f
  | .validate next, f => .validate fun r => (next r).bind f
  | .inspect next, f => .inspect fun view => (next view).bind f
  | .toObject stored next, f => .toObject stored fun object => (next object).bind f
  | .adapter next, f => .adapter fun view => (next view).bind f
  | .recall next, f => .recall fun notes => (next notes).bind f
  | .record notes next, f => .record notes (next.bind f)

instance : Monad (Script σ) := { pure := .done, bind }

/-- Go on with a result, or fail. -/
def ofExcept : Except ModelError α → Script σ α
  | .ok a => .done a
  | .error e => .raise e

/-- Read a member; a failure ends the script. -/
def read (name : String) : Script σ Value := .get name ofExcept

/-- Write a member; a failure ends the script. -/
def assign (name : String) (v : Value) : Script σ Unit := .set name v ofExcept

/-- Call a method; a failure ends the script. -/
def invoke (name : String) (args : List Value) : Script σ Value := .call name args ofExcept

/-- Change the notes. -/
def note (f : σ → σ) : Script σ Unit := .recall fun notes => .record (f notes) (.done ())

end Script

/-- Code for an event. -/
abbrev Hook (σ : Type) := Script σ Unit

/-- Code of a method, by the arguments. -/
abbrev Method (σ : Type) := List Value → Script σ Value

end EntityStore
