import EntityStore.Config
import EntityStore.Model

set_option autoImplicit false

/-! # Registries: models by name

A registry compiles models with one configuration and keeps them by name. Defining a name again
replaces the model that is kept; who holds the other one goes on with it. -/

namespace EntityStore

structure Registry (σ W : Type) where
  config : Config
  /-- The adapter of models that name none. -/
  adapter : Adapter W
  models : Bag (Model σ W) := Bag.empty

namespace Registry

variable {σ W : Type}

/-- What the models are compiled with. -/
def context (r : Registry σ W) : ModelContext W :=
  { keyBase := r.config.keyBase, onUnsaved := r.config.onUnsaved, adapter := r.adapter }

/-- Compile a model and keep it. -/
def define (r : Registry σ W) (handle : Nat) (name : String) (draft : Draft σ)
    (base : Model σ W) (adapter : Option (Adapter W)) :
    Except ModelError (Model σ W × Registry σ W) := do
  let m ← Model.compile r.context handle name draft base adapter
  return (m, { r with models := r.models.insert name m })

def get? (r : Registry σ W) (name : String) : Option (Model σ W) := r.models.get? name

def names (r : Registry σ W) : List String := r.models.names

end Registry

end EntityStore
