import EntityStore.Model

set_option autoImplicit false

/-! # Items

An item of a model: its identity once it has one, its properties, which of them have changed since
it was loaded or saved, and how loading it ended. Reading and writing a member changes nothing but
the item, so these are functions; code of a model runs on an item and the notes of scripts. -/

namespace EntityStore

/-- What is recorded of changes. -/
structure Changes where
  /-- The properties that have changed. -/
  names : Names := Bag.empty
  /-- Whether there are any. -/
  any : Bool := false

/-- Record a change of a property. -/
def Changes.mark (c : Changes) (name : String) : Changes :=
  { names := c.names.add name, any := true }

structure Item (σ W : Type) where
  model : Model σ W
  id : Option Uuid := none
  properties : Properties
  /-- The changes since the item was loaded or saved. -/
  changes : Changes := {}
  /-- How loading ended; saving counts as loading. -/
  outcome : Option (Except ModelError Unit) := none
  /-- The adapter, if it is not that of the model. -/
  ownAdapter : Option (Adapter W) := none
  /-- The policy for unsaved changes, if it is not that of the model. -/
  ownPolicy : Option UnsavedPolicy := none

namespace Item

variable {σ W : Type}

/-! ## Making items -/

/-- An item with the defaults of its model. -/
def create (model : Model σ W) (id : Option Uuid) (adapter : Option (Adapter W))
    (policy : Option UnsavedPolicy) : Item σ W :=
  { model, id, properties := model.pipeline.coerce declaredDefaults Bag.empty
    ownAdapter := adapter, ownPolicy := policy }

/-- The identity that a value stands for. -/
def identify (model : Model σ W) (v : Value) : Except ModelError Uuid :=
  match v.identity? with
  | some id => .ok id
  | none => .error (.invalidIdentity model.name v.display)

/-- An item whose identity is given by a value. -/
def withIdentity (model : Model σ W) (v : Value) : Except ModelError (Item σ W) :=
  (identify model v).map fun id => create model (some id) none none

/-! ## What an item tells -/

def isLoaded (i : Item σ W) : Bool :=
  match i.outcome with
  | some (.ok ()) => true
  | _ => false

/-- The properties that have changed since the item was loaded or saved. -/
def changed (i : Item σ W) : Names := i.changes.names

def hasChanged (i : Item σ W) : Bool := i.changes.any

/-- The key of the record of the item. -/
def key? (i : Item σ W) : Option String := i.id.map i.model.keys.key

def adapter (i : Item σ W) : Adapter W := i.ownAdapter.getD i.model.adapter

def onUnsaved (i : Item σ W) : UnsavedPolicy := i.ownPolicy.getD i.model.onUnsaved

/-- What code sees of the item. -/
def view (i : Item σ W) : ItemView :=
  { id := i.id, key := i.key?, isLoaded := i.isLoaded, hasChanged := i.hasChanged
    changed := i.changed, properties := i.properties }

/-! ## Reading and writing members -/

/-- Read a property, a computed property or the identity. -/
def get (i : Item σ W) (name : String) : Except ModelError Value :=
  if name = "uuid" then
    .ok (match i.id with
      | some id => .uuid id
      | none => .null)
  else match i.model.accessors.get? name with
    | some (.property _) | some (.computed _) =>
      .ok ((i.model.value? name i.properties).getD .null)
    | some (.method _) | some (.hook _) | none => .error (.unknownProperty i.model.name name)

/-- Whether two values that may be missing are the same. -/
def sameOrMissing : Option Value → Option Value → Bool
  | some a, some b => a.same b
  | none, none => true
  | _, _ => false

/-- Give a property a value in the form of its type. -/
def setProperty (i : Item σ W) (name : String) (p : Property) (v : Value) : Item σ W :=
  let v := p.type.coerce p none v
  if sameOrMissing (i.properties.get? name) (some v) then i
  else { i with properties := i.properties.insert name v, changes := i.changes.mark name }

/-- Let a computed property distribute a value over the properties. -/
def setComputed (i : Item σ W) (c : Computed) (v : Value) : Item σ W :=
  let after := i.model.pipeline.coerce noDefaults (c.code.write i.properties v)
  let altered := i.model.schema.properties.names.filter fun name =>
    !sameOrMissing (i.properties.get? name) (after.get? name)
  { i with properties := after, changes := altered.foldl Changes.mark i.changes }

def set (i : Item σ W) (name : String) (v : Value) : Except ModelError (Item σ W) :=
  match i.model.accessors.get? name with
  | some (.property p) => .ok (i.setProperty name p v)
  | some (.computed c) => .ok (i.setComputed c v)
  | some (.method _) | some (.hook _) => .error (.readOnly i.model.name name)
  | none =>
    if name = "uuid" then .error (.readOnly i.model.name name)
    else .error (.unknownProperty i.model.name name)

/-! ## Exporting -/

/-- The identity, the properties and the computed properties; in stored form without the computed
properties that have no type. -/
def toObject (i : Item σ W) (stored : Bool) : Properties :=
  let binary := i.adapter.binary
  let object := if stored then i.model.pipeline.serialize binary i.properties else i.properties
  let id : Value := match i.id with
    | some id => if stored then .string id.toText else .uuid id
    | none => .null
  i.model.schema.computed.entries.foldl (fun object (name, c) =>
    let v := c.read i.properties
    if !stored then object.insert name v
    else match c.type with
      | some t => object.insert name (t.serialize binary v)
      | none => object) (object.insert "uuid" id)

/-! ## Running code -/

/-- A way to run the code that a script calls. -/
abbrev Callee (σ W : Type) :=
  (α : Type) → Script σ α → Item σ W → σ → Except ModelError α × Item σ W × σ

/-- Run a script on an item and notes. -/
def run {α : Type} (callee : Callee σ W) :
    Script σ α → Item σ W → σ → Except ModelError α × Item σ W × σ
  | .done a, i, notes => (.ok a, i, notes)
  | .raise e, i, notes => (.error e, i, notes)
  | .get name next, i, notes => run callee (next (i.get name)) i notes
  | .set name v next, i, notes =>
    match i.set name v with
    | .ok i => run callee (next (.ok ())) i notes
    | .error e => run callee (next (.error e)) i notes
  | .call name args next, i, notes =>
    match i.model.method name with
    | .ok code =>
      let (r, i, notes) := callee Value (code args) i notes
      run callee (next r) i notes
    | .error e => run callee (next (.error e)) i notes
  | .validate next, i, notes =>
    let (r, i, notes) := callee (List Violation) i.model.validation i notes
    run callee (next r) i notes
  | .inspect next, i, notes => run callee (next i.view) i notes
  | .toObject stored next, i, notes => run callee (next (i.toObject stored)) i notes
  | .adapter next, i, notes =>
    run callee (next ⟨i.model.adapter.name, i.model.adapter.binary⟩) i notes
  | .recall next, i, notes => run callee (next notes) i notes
  | .record notes next, i, _ => run callee next i notes

/-- Run code that a script calls and that may call more at most `depth` deep. -/
def runWithin : Nat → Callee σ W
  | 0, _, _, i, notes => (.error i.model.calls.overflow, i, notes)
  | depth + 1, _, code, i, notes => run (runWithin depth) code i notes

def runScript {α : Type} (code : Script σ α) (i : Item σ W) (notes : σ) :
    Except ModelError α × Item σ W × σ := run (runWithin i.model.calls.depth) code i notes

end Item

end EntityStore
