import EntityStore.Json.Mismatch
import EntityStore.ScalarType.Definition
import EntityStore.Schema.LifecycleEvent
import EntityStore.Schema.Options

set_option autoImplicit false

/-! # Problems of a schema

Everything that can be wrong with a schema. Compiling a schema reports all its problems at once, so
they are collected in a list, in the order in which they are found. -/

namespace EntityStore

/-- The kinds of members that share one namespace. -/
inductive MemberKind
  | property
  | computed
  | method
deriving DecidableEq, Repr

/-- The section of a schema that declares members of a kind. -/
def MemberKind.sectionName : MemberKind → String
  | .property => "props"
  | .computed => "computed"
  | .method => "methods"

/-- Why a name cannot be given to a member. -/
inductive NameFault
  | dollar
  | malformed
  | reserved
  | event
  | duplicate
  /-- A member of another kind has it in the base. -/
  | inherited (kind : MemberKind)
deriving DecidableEq

/-- What is wrong with a schema. -/
inductive Problem
  | schemaShape
  | sectionShape (sectionName : String)
  | unknownSection (sectionName : String)
  | propertyShape (name : String)
  | propertyDocument (name : String) (mismatch : Json.Mismatch)
  /-- The type of a computed property is no text. -/
  | computedShape (key : String)
  | modelName (name : String)
  /-- The base is no model of this library. -/
  | foreignBase (name : String)
  | noProperty (model : String)
  | unknownType (typeName property : String)
  | definition (property : String) (fault : Property.Fault)
  | defaultValue (property : String) (v : Value)
  | unknownComputedType (typeName property : String)
  | noComputedCode (property : String)
  | memberName (kind : MemberKind) (name : String) (fault : NameFault)
  | noMethodCode (name : String)
  | unknownEvent (key : String)
  | noHookCode (key : String)
  | duplicateHook (event : LifecycleEvent)
  | policy (text : String)
  /-- The index of a property is declared for another one. -/
  | indexElsewhere (property : String)
  | inlineIndex (property reason : String)
  /-- An index is declared for several comparisons. -/
  | indexPlural (key : String)
  | sectionIndex (key reason : String)
  | indexProperty (property : String)
  | indexType (typeName property : String)
  | indexComparison (name property : String)
  | duplicateIndex (key : String)

def NameFault.message (kind : MemberKind) (name : String) : NameFault → String
  | .dollar => s!"invalid name {name} in {kind.sectionName}: must not start with $"
  | .malformed => s!"invalid name {Text.quote name} in {kind.sectionName}"
  | .reserved => s!"reserved name {name} in {kind.sectionName}"
  | .event => s!"{name} in {kind.sectionName} is a lifecycle hook name, declare it in hooks"
  | .duplicate => s!"duplicate name {name}"
  | .inherited other =>
    s!"duplicate name {name}: {kind.sectionName} collides with inherited {other.sectionName}"

def Problem.message : Problem → String
  | .schemaShape => "schema must be an object"
  | .sectionShape name => s!"section {name} must be an object"
  | .unknownSection name => s!"unknown section {name}"
  | .propertyShape name => s!"definition of property {name} must be an object"
  | .propertyDocument name m => s!"invalid definition of property {name}: {m.message}"
  | .computedShape key => s!"type of computed property {key} must be a string"
  | .modelName name => s!"invalid model name {Text.quote name}"
  | .foreignBase name => s!"base type {name} does not derive from Model"
  | .noProperty model => s!"missing definition of any actual property in model {model}"
  | .unknownType typeName property => s!"unknown type {typeName} of property {property}"
  | .definition property fault => s!"property {property}: {fault.message}"
  | .defaultValue property v => s!"property {property}: invalid default value {v.quoted}"
  | .unknownComputedType typeName property =>
    s!"unknown type {typeName} of computed property {property}"
  | .noComputedCode property => s!"missing code of computed property {property}"
  | .memberName kind name fault => fault.message kind name
  | .noMethodCode name => s!"method {name} is not a function"
  | .unknownEvent key => s!"unknown lifecycle hook {key}"
  | .noHookCode key => s!"hook {key} is not a function"
  | .duplicateHook event => s!"duplicate hook {event.name}"
  | .policy text => UnsavedPolicy.unknown text
  | .indexElsewhere property =>
    s!"index of property {property} must not refer to another property"
  | .inlineIndex property reason =>
    s!"invalid index declaration of property {property}: {reason}"
  | .indexPlural key =>
    s!"index {key} must declare a single operation, " ++
      "use an explicit declaration per operation"
  | .sectionIndex key reason => s!"invalid declaration of index {key}: {reason}"
  | .indexProperty property => s!"index refers to unknown property {property}"
  | .indexType typeName property => s!"unknown type {typeName} of index on {property}"
  | .indexComparison name property => s!"unsupported index type {name} on {property}"
  | .duplicateIndex key => s!"duplicate index {key}"

end EntityStore
