import EntityStore.Model

set_option autoImplicit false

/-! # Sessions: all that changes

Models do not change, and items are values of their own. A session holds the rest: the state of the
stores, the content of the indices of each model, the adapter that a model observes, the notes of
scripts, the identities that new items get, and a journal of what was done, step by step. -/

namespace EntityStore

/-- A step of an operation on an item. -/
inductive Step
  /-- A conflict of unsaved changes is decided by the policy. -/
  | conflict
  | warning (text : String)
  | event (e : LifecycleEvent)
  | check
  /-- The record of an item of a model is read; there is none if that failed. -/
  | read (model : Nat) (id : Uuid) (record : Option Record)
  /-- The record of an item of a model is written from its properties; `done` tells whether the
  store took it. -/
  | write (model : Nat) (id : Uuid) (properties : Properties) (done : Bool)
  /-- The record of an item of a model is removed; `done` tells whether the store did it. -/
  | purge (model : Nat) (id : Uuid) (done : Bool)
  /-- The indices take the values of the item. -/
  | index
  /-- The indices forget the item. -/
  | unindex
deriving DecidableEq

structure ModelIndex where
  definition : IndexDefinition
  content : SortedIndex

def ModelIndex.fresh (d : IndexDefinition) : ModelIndex :=
  ⟨d, { comparison := d.comparison, type := d.type }⟩

/-- All that changes. -/
structure Session (σ W : Type) where
  store : W
  notes : σ
  /-- The indices of models, by the handle; a model that is not there has empty ones. -/
  indices : Nat → Option (List ModelIndex) := fun _ => none
  /-- The adapters that models observe, by the handle. -/
  observed : Nat → Option (Adapter W) := fun _ => none
  /-- The identities for new items. -/
  identities : Nat → Uuid
  /-- How many identities have been used. -/
  minted : Nat := 0
  journal : List Step := []

namespace Session

variable {σ W : Type}

def log (s : Session σ W) (step : Step) : Session σ W := { s with journal := s.journal ++ [step] }

def warnings (s : Session σ W) : List String :=
  s.journal.filterMap fun step => match step with
    | .warning text => some text
    | _ => none

/-- What a step makes of the properties with which an item was last written. -/
def trackWritten (m : Model σ W) (id : Uuid) (known : Option Properties) :
    Step → Option Properties
  | .write model other properties true =>
    if model = m.handle ∧ other = id then some properties else known
  | .purge model other true => if model = m.handle ∧ other = id then none else known
  | _ => known

/-- The properties with which an item of a model was last written, unless its record has been
removed since. -/
def lastWritten? (s : Session σ W) (m : Model σ W) (id : Uuid) : Option Properties :=
  s.journal.foldl (trackWritten m id) none

/-- Take an identity for a new item. -/
def mint (s : Session σ W) : Uuid × Session σ W :=
  (s.identities s.minted, { s with minted := s.minted + 1 })

/-! ## Indices -/

def indicesOf (s : Session σ W) (m : Model σ W) : List ModelIndex :=
  (s.indices m.handle).getD (m.indices.map .fresh)

def setIndices (s : Session σ W) (m : Model σ W) (l : List ModelIndex) : Session σ W :=
  { s with indices := fun n => if n = m.handle then some l else s.indices n }

theorem indicesOf_setIndices (s : Session σ W) (m other : Model σ W) (l : List ModelIndex) :
    (s.setIndices m l).indicesOf other =
      if other.handle = m.handle then l else s.indicesOf other := by
  unfold setIndices indicesOf
  split <;> simp_all

/-- Change the content of every index of a model. -/
def mapIndices (s : Session σ W) (m : Model σ W)
    (f : IndexDefinition → SortedIndex → SortedIndex) : Session σ W :=
  s.setIndices m ((s.indicesOf m).map fun i => { i with content := f i.definition i.content })

/-- Let the indices of a model take the values of an item. -/
def updateIndices (s : Session σ W) (m : Model σ W) (id : Uuid) (bag : Properties) :
    Session σ W :=
  s.mapIndices m fun d content =>
    content.insert id (d.reduce ((m.value? d.property bag).getD .null))

/-- Let the indices of a model forget an item. -/
def removeFromIndices (s : Session σ W) (m : Model σ W) (id : Uuid) : Session σ W :=
  s.mapIndices m fun _ content => content.remove id

def clearIndices (s : Session σ W) (m : Model σ W) : Session σ W :=
  s.mapIndices m fun _ content => content.clear

/-- The items of a model whose property passes a comparison with operands, by its index. -/
def find (s : Session σ W) (m : Model σ W) (property : String) (c : Comparison)
    (operands : List Value) : Except ModelError (List Uuid) :=
  match (s.indicesOf m).find? fun i => i.definition.isFor property c with
  | none => .error (.index (.absent m.name c property))
  | some i =>
    if operands.length < c.arity then .error (.index (.operands c property))
    else .ok (i.content.find operands)

/-! ## Building the indices anew -/

/-- The adapter that a model observes: its own one if none was chosen. -/
def observedAdapter (s : Session σ W) (m : Model σ W) : Adapter W :=
  (s.observed m.handle).getD m.adapter

/-- Choose the adapter that a model observes; that can be done once. -/
def observe (s : Session σ W) (m : Model σ W) (adapter : Adapter W) :
    Except ModelError Unit × Session σ W :=
  match s.observed m.handle with
  | some _ => (.error (.adapterBound m.name), s)
  | none =>
    (.ok (), { s with observed := fun n => if n = m.handle then some adapter else s.observed n })

/-- Enter the records under keys into the indices of a model, and count them. The first record that
cannot be read ends it. -/
def indexKeys (m : Model σ W) (adapter : Adapter W) :
    List String → Nat → Session σ W → Except ModelError Nat × Session σ W
  | [], count, s => (.ok count, s)
  | key :: rest, count, s =>
    match m.keys.id? key with
    | none => indexKeys m adapter rest count s
    | some id =>
      match adapter.read key s.store with
      | .error e => (.error (.storage e), s)
      | .ok record =>
        indexKeys m adapter rest (count + 1) (s.updateIndices m id (m.pipeline.deserialize record))

/-- Empty the indices of a model and enter all records of the observed adapter. -/
def reindex (s : Session σ W) (m : Model σ W) : Except ModelError Nat × Session σ W :=
  let adapter := s.observedAdapter m
  let s := s.clearIndices m
  match adapter.keys m.keys.base s.store with
  | .error e => (.error (.storage e), s)
  | .ok keys => indexKeys m adapter keys 0 s

end Session

end EntityStore
