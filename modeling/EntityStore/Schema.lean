import EntityStore.Schema.Section
import EntityStore.Script

set_option autoImplicit false

/-! # Schemas

A schema holds what the items of a model have: properties that are stored, properties that are
computed from them, methods, code for events, and options. A model inherits the schema of its base
and may declare members again (`Schema.merge`).

A computed property has one type at most, which is both the type that was declared for it and the
one that handles its values: an untyped one that is handled by a type all the same is left out. -/

namespace EntityStore

/-- The code of a computed property. -/
structure ComputedCode where
  /-- The value for given properties, if there is one. -/
  read : Properties → Option Value
  /-- The properties after a value has been written. -/
  write : Properties → Value → Properties

/-- Code that computes nothing and changes nothing. -/
def ComputedCode.silent : ComputedCode := ⟨fun _ => none, fun bag _ => bag⟩

structure Computed where
  code : ComputedCode
  type : Option ScalarType := none

namespace Computed

/-- The type by which its values are compared. -/
def valueType (c : Computed) : ScalarType := c.type.getD .any

/-- The value for given properties, in the form of its type. -/
def read (c : Computed) (bag : Properties) : Value :=
  let v := (c.code.read bag).getD .null
  match c.type with
  | some t => t.coerce {} none v
  | none => v

end Computed

/-- What the items of a model have. -/
structure Schema (σ : Type) where
  properties : Section Property := Section.empty
  computed : Section Computed := Section.empty
  methods : Section (Method σ) := Section.empty
  hooks : LifecycleEvent → Option (Hook σ) := fun _ => none
  options : Options := {}

namespace Schema

variable {σ : Type}

instance : Inhabited (Schema σ) := ⟨{}⟩

/-- Declare code for an event. -/
def setHook (s : Schema σ) (event : LifecycleEvent) (hook : Hook σ) : Schema σ :=
  { s with hooks := fun e => if e = event then some hook else s.hooks e }

/-- The events that have code. -/
def events (s : Schema σ) : List LifecycleEvent :=
  LifecycleEvent.all.filter fun e => (s.hooks e).isSome

/-- The kind of the member with a name. -/
def kindOf? (s : Schema σ) (name : String) : Option MemberKind :=
  if s.properties.contains name then some .property
  else if s.computed.contains name then some .computed
  else if s.methods.contains name then some .method
  else none

/-- The schema of two schemas together, what the second one declares winning. -/
def merge (base own : Schema σ) : Schema σ :=
  { properties := base.properties.merge own.properties
    computed := base.computed.merge own.computed
    methods := base.methods.merge own.methods
    hooks := fun e => own.hooks e <|> base.hooks e
    options := base.options.merge own.options }

end Schema

end EntityStore
