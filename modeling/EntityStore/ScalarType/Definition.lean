import EntityStore.ScalarType.Coerce
import EntityStore.ScalarType.Order
import EntityStore.Value.Document

set_option autoImplicit false

/-! # Checking the definition of a property

Limits are brought into the form of the values they limit, patterns are read, and limits in the
wrong order are exchanged. What does not make sense is reported. -/

namespace EntityStore

/-- What is wrong with the definition of a property. -/
inductive Property.Fault
  | minimum (v : Value)
  | maximum (v : Value)
  /-- The distance of whole numbers is not a positive whole number. -/
  | wholeStep (x : Binary64)
  /-- The distance of numbers is not positive. -/
  | step (x : Binary64)
  /-- Both cases are asked for. -/
  | bothCases
  | pattern (source : String)

def Property.Fault.message : Property.Fault → String
  | .minimum v => s!"invalid minimum limit {v.quoted}"
  | .maximum v => s!"invalid maximum limit {v.quoted}"
  | .wholeStep x => s!"invalid step {x.toText}, must be a positive integer"
  | .step x => s!"invalid step {x.toText}, must be positive"
  | .bothCases => "upperCase and lowerCase can't be requested at once"
  | .pattern source => s!"invalid pattern: {source}"

namespace ScalarType

/-- A limit in the form of the values it limits, and the limit that has no such form. -/
def limit (t : ScalarType) (raw : Option Value) : Option Value × Option Value :=
  match raw with
  | none => (none, none)
  | some v =>
    let c := t.coerce {} none v
    if c.isNull then (none, none) else if c.isInvalid then (none, some v) else (some c, none)

/-- Bring the limits into the form of the values they limit, the lower one first. -/
def checkLimits (t : ScalarType) (p : Property) : Property × List Property.Fault :=
  let (low, badLow) := t.limit p.min
  let (high, badHigh) := t.limit p.max
  let swapped : Bool := match low, high with
    | some a, some b => t.order a b == some .gt
    | _, _ => false
  ({ p with min := if swapped then high else low, max := if swapped then low else high },
    (badLow.map Property.Fault.minimum).toList ++ (badHigh.map Property.Fault.maximum).toList)

/-- The fault of a distance, unless it passes a test. -/
def checkStep (p : Property) (isGood : Binary64 → Bool) (fault : Binary64 → Property.Fault) :
    List Property.Fault :=
  match p.step with
  | some step => if isGood step then [] else [fault step]
  | none => []

/-- Whether a number is finite and positive. -/
def isPositive (x : Binary64) : Bool := x.isFinite && !x.isNegative && !x.isZero

/-- Put the lengths into order and read the pattern. -/
def checkText [Pattern.Reader] (p : Property) : Property × List Property.Fault :=
  let (least, most) := match p.minLength, p.maxLength with
    | some a, some b => if b < a then (some b, some a) else (some a, some b)
    | a, b => (a, b)
  let matcher := p.pattern.bind Pattern.ofText?
  let badPattern := match p.pattern, matcher with
    | some source, none => [Property.Fault.pattern source]
    | _, _ => []
  ({ p with minLength := least, maxLength := most, matcher },
    (if p.upperCase && p.lowerCase then [.bothCases] else []) ++ badPattern)

/-- Check the definition of a property of a type: the definition in its final form, and what is
wrong with it. -/
def checkDefinition [Pattern.Reader] (t : ScalarType) (p : Property) :
    Property × List Property.Fault :=
  match t with
  | .string => checkText p
  | .integer =>
    let (p, faults) := checkLimits .integer p
    (p, faults ++ checkStep p (fun x => isPositive x && x.isWhole) .wholeStep)
  | .number =>
    let (p, faults) := checkLimits .number p
    (p, faults ++ checkStep p isPositive .step)
  | .date => checkLimits .date p
  | .boolean | .uuid | .any => (p, [])

end ScalarType

end EntityStore
