import EntityStore.Schema.Section
import EntityStore.ScalarType.Storage
import EntityStore.ScalarType.Validate

set_option autoImplicit false

/-! # Pipelines: all properties of an item at once

The types of all properties are looked up once, in the order in which the properties are declared.
Each operation then goes over this list and treats one property after the other by itself. -/

namespace EntityStore

/-- A property with what is known about its type. -/
structure PipelineStep where
  name : String
  property : Property
  type : ScalarType
  /-- Whether stored values have to be restored. -/
  restores : Bool

/-- The properties of an item in order. -/
structure Pipeline where
  steps : List PipelineStep := []

/-- Where the default of a property comes from. -/
abbrev DefaultSource := String → Property → Option Value

namespace Pipeline

/-- The pipeline of a section of properties. -/
def ofSection (properties : Section Property) : Pipeline :=
  ⟨properties.entries.map fun (name, property) =>
    { name, property, type := property.type, restores := property.type.restores }⟩

def names (p : Pipeline) : List String := p.steps.map (·.name)

/-- Bring every property into the form of its type; a missing one is taken for `null`. -/
def coerce (p : Pipeline) (defaults : DefaultSource) (bag : Properties) : Properties :=
  p.steps.foldl (fun bag s =>
    let raw := (bag.get? s.name).getD .null
    bag.insert s.name (s.type.coerce s.property (defaults s.name s.property) raw)) bag

/-- The constraints that the properties do not meet. -/
def violations (p : Pipeline) (bag : Properties) : List Violation :=
  p.steps.flatMap fun s =>
    (s.type.violations s.property ((bag.get? s.name).getD .null)).map fun c => ⟨s.name, c⟩

/-- What was found before, and then what is found in one property after the other. -/
def report (p : Pipeline) (bag : Properties) (found : List Violation) : List Violation :=
  p.steps.foldl (fun found s =>
    s.type.report s.name s.property ((bag.get? s.name).getD .null) found) found

theorem report_eq (p : Pipeline) (bag : Properties) (found : List Violation) :
    p.report bag found = found ++ p.violations bag := by
  unfold report violations ScalarType.report
  generalize p.steps = steps
  induction steps generalizing found with
  | nil => simp
  | cons s rest ih => rw [List.foldl_cons, ih, List.flatMap_cons, List.append_assoc]

/-- The stored form of the properties. -/
def serialize (p : Pipeline) (binary : Bool) (bag : Properties) : Record :=
  Bag.ofList (p.steps.map fun s =>
    (s.name, s.type.serialize binary ((bag.get? s.name).getD .null)))

/-- The value that a stored form stands for. -/
def PipelineStep.restore (s : PipelineStep) (raw : Value) : Value :=
  s.type.coerce s.property none (if s.restores then s.type.deserialize raw else raw)

/-- The properties that a record stands for. -/
def deserialize (p : Pipeline) (record : Record) : Properties :=
  Bag.ofList (p.steps.map fun s =>
    (s.name, PipelineStep.restore s ((record.get? s.name).getD .null)))

end Pipeline

/-- No property has a default. -/
def noDefaults : DefaultSource := fun _ _ => none

/-- The defaults that the definitions give. -/
def declaredDefaults : DefaultSource := fun _ p => p.default

end EntityStore
