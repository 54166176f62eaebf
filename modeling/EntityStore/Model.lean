import EntityStore.Accessor
import EntityStore.Index.Definition
import EntityStore.Model.KeyTemplate
import EntityStore.Pipeline
import EntityStore.Schema.Normalized

set_option autoImplicit false

/-! # Models

A model is a compiled schema with the adapter under which its items are stored. Every model
inherits from another one; the root, which declares nothing, is the base of all. A model does not
change once it is compiled. What changes as its items come and go, the content of its indices, is
part of a `Session`. -/

namespace EntityStore

/-- How deep code may call code, and what a call beyond that ends with. Models set no limit of their
own: this one stands for the room there is for calls, of which nothing is assumed. -/
structure CallLimit where
  depth : Nat := 1000
  overflow : ModelError := .rejected "out of room for calls"

/-- What models are compiled with. -/
structure ModelContext (W : Type) where
  /-- The start of the keys of all records. -/
  keyBase : String := "models"
  /-- The policy of models that declare none. -/
  onUnsaved : UnsavedPolicy := .fail
  /-- The adapter of models that name none. -/
  adapter : Adapter W
  calls : CallLimit := {}

/-- A compiled model. -/
structure Model (σ W : Type) where
  /-- Tells models apart. -/
  handle : Nat
  name : String
  /-- What items have, inherited or declared. -/
  schema : Schema σ
  adapter : Adapter W
  /-- The handles and names of the models from which this one inherits, the base first. -/
  ancestors : List (Nat × String)
  indices : List IndexDefinition
  pipeline : Pipeline
  accessors : Bag (Accessor σ)
  keys : KeyTemplate
  /-- The policy, if the schema has none. -/
  defaultPolicy : UnsavedPolicy
  calls : CallLimit

namespace Model

variable {σ W : Type}

def rootHandle : Nat := 0

def rootName : String := "Model"

/-- The model from which all models inherit. -/
def root (context : ModelContext W) : Model σ W :=
  { handle := rootHandle
    name := rootName
    schema := {}
    adapter := context.adapter
    ancestors := []
    indices := []
    pipeline := {}
    accessors := Bag.empty
    keys := .forModel context.keyBase rootName
    defaultPolicy := context.onUnsaved
    calls := context.calls }

def isRoot (m : Model σ W) : Bool := m.handle == rootHandle

/-- Whether a model inherits from the one with a handle. -/
def derivesFrom (m : Model σ W) (handle : Nat) : Bool := m.ancestors.any (·.1 == handle)

/-! ## Compiling -/

/-- The problems with the name and the base of a model. -/
def headProblems (name : String) (base : Model σ W) : List Problem :=
  (if isIdentifier name then [] else [.modelName name]) ++
  (if base.isRoot || base.derivesFrom rootHandle then [] else [.foreignBase base.name])

/-- Compile a draft into a model that inherits from `base`. All problems are reported, and there is
no model if there are any. -/
def compile (context : ModelContext W) (handle : Nat) (name : String) (draft : Draft σ)
    (base : Model σ W) (adapter : Option (Adapter W)) : Except ModelError (Model σ W) :=
  let (own, schemaProblems) := draft.normalize name base.schema (!base.isRoot)
  let (indices, indexProblems) := collectIndices own draft.indices base.schema
  let problems := headProblems name base ++ schemaProblems ++ indexProblems
  if problems.isEmpty then
    let schema := base.schema.merge own
    .ok
      { handle, name, schema
        adapter := adapter.getD context.adapter
        ancestors := (base.handle, base.name) :: base.ancestors
        indices := inheritIndices base.indices indices own
        pipeline := .ofSection schema.properties
        accessors := Accessor.table schema
        keys := .forModel context.keyBase name
        defaultPolicy := context.onUnsaved
        calls := context.calls }
  else .error (.definition name problems)

/-! ## What a model tells -/

def onUnsaved (m : Model σ W) : UnsavedPolicy := m.schema.options.onUnsaved.getD m.defaultPolicy

/-- The code for an event that works on something of a kind. -/
def boundHook? (m : Model σ W) (e : LifecycleEvent) (binding : HookBinding) : Option (Hook σ) :=
  (m.schema.hooks e).filter fun _ => e.binding == binding

/-- The code for an event that works on an item. -/
def hook? (m : Model σ W) (e : LifecycleEvent) : Option (Hook σ) := m.boundHook? e .item

/-- The code for an event that works on the model. -/
def staticHook? (m : Model σ W) (e : LifecycleEvent) : Option (Hook σ) := m.boundHook? e .model

/-- The code of a method. -/
def method (m : Model σ W) (name : String) : Except ModelError (Method σ) :=
  match m.accessors.get? name with
  | some (.method code) => .ok code
  | some (.property _) | some (.computed _) | some (.hook _) => .error (.notAMethod m.name name)
  | none => .error (.unknownProperty m.name name)

/-- The code for an event that works on an item, which does nothing if there is none. -/
def codeFor (m : Model σ W) (e : LifecycleEvent) : Hook σ := (m.hook? e).getD (.done ())

/-- The check of an item, with the code for the events around it. -/
def validation (m : Model σ W) : Script σ (List Violation) :=
  (m.codeFor .beforeValidate).bind fun _ =>
    .inspect fun view =>
      (m.codeFor .afterValidate).bind fun _ => .done (m.pipeline.violations view.properties)

/-- The value of a property or computed property for given properties. -/
def value? (m : Model σ W) (name : String) (bag : Properties) : Option Value :=
  if m.schema.properties.contains name then some ((bag.get? name).getD .null)
  else (m.schema.computed.get? name).map (·.read bag)

end Model

end EntityStore
