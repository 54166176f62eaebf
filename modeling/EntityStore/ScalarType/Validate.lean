import EntityStore.ScalarType.Order
import EntityStore.ScalarType.Coerce
import EntityStore.Value.Document

set_option autoImplicit false

/-! # Validation: the constraints that a value violates

A value that is not represented violates one thing only, and so does a missing one. Everything else
is checked against each constraint of its property in a fixed order. -/

namespace EntityStore

/-- A constraint that a value does not meet. -/
inductive Constraint
  /-- The value is not one of its type. -/
  | kind (t : ScalarType)
  | presence
  | least (limit : Value)
  | greatest (limit : Value)
  /-- The whole number is not as many steps from the base. -/
  | wholeStep (n base : Int)
  /-- The number is not as many steps from the base. -/
  | step (x base : Binary64)
  | minLength (n : Nat)
  | maxLength (n : Nat)
  | pattern (source : String)
deriving DecidableEq

def Constraint.message : Constraint → String
  | .kind t => s!"is not a valid {t.name}"
  | .presence => "is required"
  | .least limit => s!"must be at least {limit.display}"
  | .greatest limit => s!"must be at most {limit.display}"
  | .wholeStep n base => s!"must be a multiple of {n} starting at {base}"
  | .step x base => s!"must be a multiple of {x.toText} starting at {base.toText}"
  | .minLength n => s!"must have at least {n} characters"
  | .maxLength n => s!"must have at most {n} characters"
  | .pattern source => s!"must match pattern {source}"

/-- A constraint that the value of a property does not meet. -/
structure Violation where
  property : String
  constraint : Constraint
deriving DecidableEq

def Violation.message (v : Violation) : String := s!"{v.property} {v.constraint.message}"

namespace ScalarType

/-- The limits that a value does not keep. -/
def limitViolations (t : ScalarType) (p : Property) (v : Value) : List Constraint :=
  (match p.min with
    | some low => if t.order v low = some .lt then [.least low] else []
    | none => []) ++
  (match p.max with
    | some high => if t.order v high = some .gt then [.greatest high] else []
    | none => [])

/-- A number without its fraction, cut to 128 bits with a sign. -/
def cutWhole (x : Binary64) : Int :=
  if x.isNaN then 0
  else
    let n : Nat := if x.isFinite then x.wholePart else 2 ^ 127
    if x.isNegative then max (-(n : Int)) (-2 ^ 127) else min (n : Int) (2 ^ 127 - 1)

/-- Whether a whole number is a number of steps from the base. -/
def wholeStepViolations (p : Property) (i : Int64) : List Constraint :=
  match p.step with
  | none => []
  | some step =>
    let base : Int := ((p.min.bind Value.integer?).map Int64.toInt).getD 0
    let step := cutWhole step
    if 0 < step ∧ (i.toInt - base) % step ≠ 0 then [.wholeStep step base] else []

/-- How far from a whole number of steps a number may be. -/
def stepTolerance : Binary64 := Binary64.ofDecimal false 1 (-9)

/-- Whether a number is, up to the tolerance, a number of steps from the base. -/
def stepViolations (p : Property) (x : Binary64) : List Constraint :=
  match p.step with
  | none => []
  | some step =>
    if !(Binary64.zero false).less step then []
    else
      let base := (p.min.bind Value.number?).getD (Binary64.zero false)
      let steps := (x.sub base).div step
      if stepTolerance.less (steps.sub steps.round).abs then [.step step base] else []

/-- The constraints on texts that a text does not meet. -/
def textViolations (p : Property) (s : String) : List Constraint :=
  if s.isEmpty && p.required then [.presence]
  else
    (match p.minLength with
      | some n => if s.length < n then [.minLength n] else []
      | none => []) ++
    (match p.maxLength with
      | some n => if n < s.length then [.maxLength n] else []
      | none => []) ++
    (match p.matcher with
      | some m => if m.isMatch s then [] else [.pattern m.source]
      | none => [])

/-- The constraints on the kind of a value of a type, and then on its content. -/
def contentViolations (t : ScalarType) (p : Property) (v : Value) : List Constraint :=
  match t with
  | .string => match v.text? with
    | some s => textViolations p s
    | none => [.kind t]
  | .integer => match v.integer? with
    | some i => t.limitViolations p v ++ wholeStepViolations p i
    | none => [.kind t]
  | .number => match v.number? with
    | some x => t.limitViolations p v ++ stepViolations p x
    | none => [.kind t]
  | .date => match v.date? with
    | some _ => t.limitViolations p v
    | none => [.kind t]
  | .boolean => if v.bool?.isSome then [] else [.kind t]
  | .uuid => if v.uuid?.isSome then [] else [.kind t]
  | .any => []

/-- The constraints that a value of a property does not meet. -/
def violations (t : ScalarType) (p : Property) (v : Value) : List Constraint :=
  if v.isInvalid && t != .any then [.kind t]
  else if v.isNull then if p.required then [.presence] else []
  else t.contentViolations p v

/-- What was found before, and the constraints that the value of a property does not meet. -/
def report (t : ScalarType) (name : String) (p : Property) (v : Value) (found : List Violation) :
    List Violation :=
  found ++ (t.violations p v).map fun c => ⟨name, c⟩

end ScalarType

end EntityStore
