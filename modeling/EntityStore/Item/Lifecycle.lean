import EntityStore.Item
import EntityStore.Session

set_option autoImplicit false

/-! # Loading, saving and removing items

An operation runs on an item within a session. It may fail at any step; the item and the session
keep what was done up to there. Each step is entered into the journal when it is taken, those that
ask the store with what it answered.

The policy for unsaved changes is asked when an item that has an identity has changes that were not
made to its record: when it is saved without having been loaded, and when it is loaded. -/

namespace EntityStore

/-- An operation on an item within a session. -/
abbrev ItemRun (σ W : Type) := ExceptT ModelError (StateM (Item σ W × Session σ W))

namespace ItemRun

variable {σ W α : Type}

/-! ## Steps -/

def item : ItemRun σ W (Item σ W) := do return (← get).1

def modifyItem (f : Item σ W → Item σ W) : ItemRun σ W Unit := modify fun (i, s) => (f i, s)

def modifySession (f : Session σ W → Session σ W) : ItemRun σ W Unit :=
  modify fun (i, s) => (i, f s)

/-- Enter a step into the journal. -/
def note (step : Step) : ItemRun σ W Unit := modifySession (·.log step)

/-- Carry on with the result of an operation, whether it failed or not. -/
def attempt (x : ItemRun σ W α) : ItemRun σ W (Except ModelError α) :=
  ExceptT.mk do
    let r ← x.run
    return .ok r

/-- The identity of the item, which it must have. -/
def identity : ItemRun σ W Uuid := do
  let i ← item
  match i.id with
  | some id => return id
  | none => throw (.notBound i.model.name)

def perform (code : Script σ α) : ItemRun σ W α := do
  let (i, s) ← get
  let (r, i, notes) := i.runScript code s.notes
  set (i, { s with notes })
  match r with
  | .ok a => return a
  | .error e => throw e

def fire (e : LifecycleEvent) : ItemRun σ W Unit := do
  note (.event e)
  match (← item).model.hook? e with
  | some code => perform code
  | none => return ()

/-- Decide about unsaved changes by the policy. -/
def decideConflict (action : String) : ItemRun σ W Unit := do
  note .conflict
  let i ← item
  match i.onUnsaved with
  | .ignore => return ()
  | .warn => note (.warning s!"{action} item with unsaved changes")
  | .fail => throw (.conflict i.model.name (← identity))

def readRecord (id : Uuid) : ItemRun σ W Record := do
  let (i, s) ← get
  let r := i.adapter.read (i.model.keys.key id) s.store
  note (.read i.model.handle id r.toOption)
  match r with
  | .ok record => return record
  | .error e => throw (.storage e)

def writeRecord (id : Uuid) : ItemRun σ W Unit := do
  let (i, s) ← get
  let record := i.model.pipeline.serialize i.adapter.binary i.properties
  let (r, store) := i.adapter.write (i.model.keys.key id) record s.store
  modifySession ({ · with store })
  note (.write i.model.handle id i.properties r.isOk)
  match r with
  | .ok () => return ()
  | .error e => throw (.storage e)

def purgeRecord (id : Uuid) : ItemRun σ W Unit := do
  let (i, s) ← get
  let (r, store) := i.adapter.purge (i.model.keys.key id) s.store
  modifySession ({ · with store })
  note (.purge i.model.handle id r.isOk)
  match r with
  | .ok () => return ()
  | .error e => throw (.storage e)

/-! ## Operations -/

def validate : ItemRun σ W (List Violation) := do
  fire .beforeValidate
  note .check
  let i ← item
  let violations := i.model.pipeline.violations i.properties
  fire .afterValidate
  return violations

/-- Read the record of the item and take its properties over. -/
def loadRecord (id : Uuid) : ItemRun σ W Unit := do
  fire .beforeLoad
  let record ← readRecord id
  modifyItem fun i =>
    { i with properties := i.model.pipeline.deserialize record, changes := {} }
  fire .afterLoad

/-- Load the item. How that ends is remembered, and loading again ends the same way at once. -/
def load : ItemRun σ W Unit := do
  let i ← item
  match i.outcome with
  | some (.ok ()) => return ()
  | some (.error e) => throw e
  | none =>
    let id ← identity
    if i.hasChanged then decideConflict "discarding changes of"
    let outcome ← attempt (loadRecord id)
    modifyItem ({ · with outcome := some outcome })
    match outcome with
    | .ok () => return ()
    | .error e => throw e

/-- Forget how loading ended, and load the item. -/
def reload : ItemRun σ W Unit := do
  modifyItem ({ · with outcome := none })
  load

/-- The identity of the item, or one for a new item. -/
def identityToSave : ItemRun σ W Uuid := do
  let (i, s) ← get
  match i.id with
  | some id => return id
  | none =>
    let (id, s) := s.mint
    set (i, s)
    return id

/-- Take over that the record of the item has been written. -/
def becomeSaved (id : Uuid) : ItemRun σ W Unit := do
  note .index
  modify fun (i, s) =>
    ({ i with id := some id, changes := {}, outcome := some (.ok ()) },
      s.updateIndices i.model id i.properties)

/-- Save the item. An item that violates constraints is not saved; a new one gets an identity. Once
the record is written the item counts as saved, even if code that runs after that fails. -/
def save : ItemRun σ W Unit := do
  let i ← item
  if i.id.isSome && !i.isLoaded && i.hasChanged then decideConflict "saving"
  let violations ← validate
  if !violations.isEmpty then throw (.validation violations)
  fire .beforeSave
  let isNew := (← item).id.isNone
  if isNew then fire .beforeCreate
  let id ← identityToSave
  writeRecord id
  becomeSaved id
  if isNew then fire .afterCreate
  fire .afterSave

/-- Remove the record of the item. The item keeps its identity. -/
def remove : ItemRun σ W Unit := do
  let id ← identity
  fire .beforeRemove
  purgeRecord id
  note .unindex
  modify fun (i, s) => ({ i with outcome := none }, s.removeFromIndices i.model id)
  fire .afterRemove

def getMember (name : String) : ItemRun σ W Value := do ofExcept ((← item).get name)
where
  /-- Go on with a result, or fail. -/
  ofExcept : Except ModelError Value → ItemRun σ W Value
    | .ok v => return v
    | .error e => throw e

def setMember (name : String) (v : Value) : ItemRun σ W Unit := perform (.assign name v)

def callMember (name : String) (args : List Value) : ItemRun σ W Value :=
  perform (.invoke name args)

end ItemRun

end EntityStore
