import EntityStore.Comparison
import EntityStore.ScalarType

set_option autoImplicit false

/-! # The order of the values of a type

Every type orders the values of its own kind and no others. Numbers are ordered with whole
numbers. -/

namespace EntityStore.ScalarType

/-- The order that a view of values brings with it. -/
def orderBy {α : Type} (view : Value → Option α) (order : α → α → Option Ordering)
    (a b : Value) : Option Ordering :=
  match view a, view b with
  | some x, some y => order x y
  | _, _ => none

/-- The order of two values of a type. -/
def order : ScalarType → Value → Value → Option Ordering
  | .string => orderBy Value.text? fun x y => some (Value.orderText x y)
  | .integer => orderBy Value.integer? fun x y => some (Ord.compare x.toInt y.toInt)
  | .number => orderBy Value.number? Binary64.compare?
  | .boolean => orderBy Value.bool? fun x y => some (Ord.compare x.toNat y.toNat)
  | .date => orderBy Value.date? fun x y => some (x.order y)
  | .uuid => orderBy Value.uuid? fun x y => some (x.order y)
  | .any => Value.looseOrder?

/-- Whether a value passes a comparison in the order of a type. -/
def compare (t : ScalarType) (c : Comparison) (a : Value) (operands : List Value) : Bool :=
  c.holds t.order a operands

/-- The place of a value before or after another when values of a type are sorted. -/
def sort (t : ScalarType) : Value → Value → Ordering := Comparison.sort t.order

end EntityStore.ScalarType
