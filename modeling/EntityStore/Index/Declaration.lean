import EntityStore.Json.Document
import EntityStore.ScalarType
import EntityStore.Value

set_option autoImplicit false

/-! # Declarations of indices

An index can be declared with a property (inline) or in a section of its own, and in several
shapes. A declaration is kept in the shape in which it was written; which indices it stands for is
decided when the schema is compiled. -/

namespace EntityStore

/-- Derives the value that an index keeps from that of its property. -/
abbrev Reducer := Value → Value

/-- How one comparison of an inline declaration is switched on. -/
inductive IndexSwitch
  | enabled (on : Bool)
  | reduced (reducer : Reducer)

/-- An index described part by part. -/
structure IndexDetails where
  /-- The property; if there is none, the key of the declaration names it. -/
  property : Option String := none
  /-- The name of the comparison; if there is none, it is that of equality. -/
  comparison : Option String := none
  reducer : Option Reducer := none
  /-- The name of the type of the values, if the property does not tell it. -/
  typeName : Option String := none
  /-- The type of the values, whatever the property tells. -/
  type : Option ScalarType := none

/-- A declaration of indices. -/
inductive IndexSpec
  | reduced (reducer : Reducer)
  | enabled (on : Bool)
  | comparison (name : String)
  | comparisons (names : List String)
  /-- Comparisons by their names, each with a switch. -/
  | switches (entries : List (String × IndexSwitch))
  | details (d : IndexDetails)
  /-- Something else, with what is to be said of it. -/
  | unsupported (reason : String)

namespace IndexSpec

/-- The text of a document that is one. -/
def text? : Json → Option String
  | .string s => some s
  | _ => none

/-- The declaration that a document other than an object stands for. -/
def ofScalarJson : Json → IndexSpec
  | .bool on => .enabled on
  | .string name => .comparison name
  | .array items => match items.mapM text? with
    | some names => .comparisons names
    | none => .unsupported "list of operations must hold names"
  | j => .unsupported j.compact

/-- Whether a document switches a comparison on. -/
def switchOfJson : Json → IndexSwitch
  | .bool on => .enabled on
  | .null => .enabled false
  | _ => .enabled true

/-- The declaration in the document of a property. -/
def ofInlineJson : Json → IndexSpec
  | .object members => .switches (members.map fun m => (m.1, switchOfJson m.2))
  | j => ofScalarJson j

/-- The declaration in a document of its own. -/
def ofSectionJson : Json → IndexSpec
  | .object members =>
    let text (name : String) : Option String := (members.lookup name).bind text?
    .details { property := text "property", comparison := text "type"
               typeName := text "propertyType" }
  | j => ofScalarJson j

end IndexSpec

end EntityStore
