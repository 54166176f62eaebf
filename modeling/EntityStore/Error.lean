import EntityStore.ScalarType.Validate
import EntityStore.Schema.Problem
import EntityStore.Storage.Adapter

set_option autoImplicit false

/-! # Errors of models and items

Why a model could not be compiled, or an operation on a model or an item was not carried out. -/

namespace EntityStore

/-- Why a look-up in an index failed. -/
inductive IndexError
  | absent (model : String) (comparison : Comparison) (property : String)
  /-- There are too few operands. -/
  | operands (comparison : Comparison) (property : String)

def IndexError.message : IndexError → String
  | .absent model c property => s!"model {model} has no {c.name} index on {property}"
  | .operands c property => s!"{c.name} lookup on {property} needs {c.arity} operand(s)"

/-- Why a configuration was not accepted. -/
inductive ConfigError
  /-- The text of a schema is no document. -/
  | schemaText
  | text (fault : Json.Fault)
  /-- Keys cannot start with the text. -/
  | base (start : String)

def ConfigError.message : ConfigError → String
  | .schemaText => "invalid schema JSON: malformed text"
  | .text fault => fault.message
  | .base start => s!"invalid data prefix: {Text.quote start}"

/-- Why an operation was not carried out. -/
inductive ModelError
  | definition (model : String) (problems : List Problem)
  | validation (violations : List Violation)
  | conflict (model : String) (id : Uuid)
  | unknownProperty (model name : String)
  | readOnly (model name : String)
  | notAMethod (model name : String)
  | notBound (model : String)
  | invalidIdentity (model value : String)
  /-- The model observes an adapter already. -/
  | adapterBound (model : String)
  /-- Code of the model refused. -/
  | rejected (text : String)
  | index (e : IndexError)
  | config (e : ConfigError)
  | storage (e : StorageError)

def ModelError.message : ModelError → String
  | .definition model problems =>
    s!"invalid definition of model {model}: " ++ "; ".intercalate (problems.map (·.message))
  | .validation violations =>
    "validation failed: " ++ "; ".intercalate (violations.map (·.message))
  | .conflict model id =>
    s!"item {id.toText} of model {model} has unsaved changes conflicting with its stored record"
  | .unknownProperty model name => s!"model {model} has no property named {name}"
  | .readOnly model name => s!"{name} of model {model} is read-only"
  | .notAMethod model name => s!"{name} of model {model} is not a method"
  | .notBound model => s!"item of model {model} is not bound to a UUID"
  | .invalidIdentity model value => s!"invalid UUID for item of model {model}: {value}"
  | .adapterBound model => s!"model {model} is already observing an adapter"
  | .rejected text => text
  | .index e => s!"index error: {e.message}"
  | .config e => s!"configuration error: {e.message}"
  | .storage e => s!"storage error: {e.message}"

end EntityStore
