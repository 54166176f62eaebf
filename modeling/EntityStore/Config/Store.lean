import EntityStore.Config
import EntityStore.Storage.Depot

set_option autoImplicit false

/-! # The store that a configuration asks for -/

namespace EntityStore

/-- An empty store of the kind that is asked for. -/
def AdapterConfig.store : AdapterConfig → Store
  | .memory binary => .memory binary {}
  | .files _ => .files {}

@[simp]
theorem AdapterConfig.name_store (c : AdapterConfig) : c.store.name = c.kind := by
  cases c <;> rfl

end EntityStore
