import EntityStore.Schema

set_option autoImplicit false

/-! # Access to the members of an item by name

What the name of a member stands for. The members of a schema are entered kind by kind; since names
are not shared between kinds, none of them is lost. -/

namespace EntityStore

/-- What the name of a member stands for. -/
inductive Accessor (σ : Type)
  | property (p : Property)
  | computed (c : Computed)
  | method (m : Method σ)
  | hook (e : LifecycleEvent)

namespace Accessor

variable {σ : Type}

/-- The members of a schema by name. -/
def table (s : Schema σ) : Bag (Accessor σ) :=
  Bag.ofList <|
    (s.properties.entries.map fun (name, p) => (name, Accessor.property p)) ++
    (s.computed.entries.map fun (name, c) => (name, .computed c)) ++
    (s.methods.entries.map fun (name, m) => (name, .method m)) ++
    (s.events.map fun e => (e.name, .hook e))

end Accessor

end EntityStore
