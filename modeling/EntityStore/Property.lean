import EntityStore.Index.Declaration
import EntityStore.Pattern

set_option autoImplicit false

/-! # Definitions of properties

A property has a type and constraints on its values. Which constraints count depends on the type:
limits are for what is ordered by number or time, lengths and patterns for texts. -/

namespace EntityStore

structure Property where
  typeName : String := "string"
  required : Bool := false
  /-- The value it has at first. -/
  default : Option Value := none
  min : Option Value := none
  max : Option Value := none
  /-- The distance of allowed values, counted from the least one or zero. -/
  step : Option Binary64 := none
  minLength : Option Nat := none
  maxLength : Option Nat := none
  pattern : Option String := none
  /-- That pattern, once the definition has been checked. -/
  matcher : Option Pattern := none
  trim : Bool := false
  /-- Whether runs of blanks become one space. -/
  reduceSpace : Bool := false
  upperCase : Bool := false
  lowerCase : Bool := false
  index : Option IndexSpec := none

/-- The type of a property; `any` if its name is that of no type. -/
def Property.type (p : Property) : ScalarType := (ScalarType.ofName? p.typeName).getD .any

end EntityStore
