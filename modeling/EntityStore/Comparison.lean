import EntityStore.Value

set_option autoImplicit false

/-! # Comparisons

Ten ways to test a value, some of them against one or two operands. The order that they use is a
parameter (`Comparison.holds`); it is asked about values other than `null` only. Nothing equals
nothing and is at most and at least nothing; other comparisons with nothing on one side fail.

The same order, with `null` and what is not represented at the end, sorts values
(`Comparison.sort`). -/

namespace EntityStore

/-- A way to test a value. -/
inductive Comparison
  | equal
  | notEqual
  | unset
  | null
  | notNull
  /-- Between two operands, in either order. -/
  | between
  | less
  | atMost
  | greater
  | atLeast
deriving DecidableEq, Repr

namespace Comparison

def all : List Comparison :=
  [.equal, .notEqual, .unset, .null, .notNull, .between, .less, .atMost, .greater, .atLeast]

def name : Comparison → String
  | .equal => "eq"
  | .notEqual => "neq"
  | .unset => "not"
  | .null => "null"
  | .notNull => "notnull"
  | .between => "between"
  | .less => "lt"
  | .atMost => "lte"
  | .greater => "gt"
  | .atLeast => "gte"

/-- How many operands a comparison takes. -/
def arity : Comparison → Nat
  | .unset | .null | .notNull => 0
  | .between => 2
  | .equal | .notEqual | .less | .atMost | .greater | .atLeast => 1

/-- The comparison with a name, in any case and with blanks around it. -/
def ofName? (text : String) : Option Comparison :=
  let wanted := Text.fold text
  if wanted = "noteq" then some .notEqual else all.find? fun c => c.name = wanted

/-- What is said of a name that is no comparison's. -/
def unknown (text : String) : String := s!"unknown operation: {text}"

/-- Whether an order of two values is as a comparison with one operand wants it. -/
def accepts : Comparison → Ordering → Bool
  | .equal, o => o == .eq
  | .less, o => o == .lt
  | .greater, o => o == .gt
  | .atMost, o => o != .gt
  | .atLeast, o => o != .lt
  | .notEqual, _ | .unset, _ | .null, _ | .notNull, _ | .between, _ => false

/-- The order of two values, neither of which may be `null`. -/
def orderNotNull (order : Value → Value → Option Ordering) (a b : Value) : Option Ordering :=
  if a.isNull || b.isNull then none else order a b

/-- Whether `a` lies between two bounds in either order, by an order of values. -/
def liesBetween (order : Value → Value → Option Ordering) (a x y : Value) : Bool :=
  if a.isNull || x.isNull || y.isNull then false
  else
    let (low, high) := if order x y = some .gt then (y, x) else (x, y)
    (order a low).any atLeast.accepts && (order a high).any atMost.accepts

/-- Whether a value passes a comparison with operands; missing operands are `null`. -/
def holds (order : Value → Value → Option Ordering) (c : Comparison) (a : Value)
    (operands : List Value) : Bool :=
  let b := operands.head?.getD .null
  let bothNull := a.isNull && b.isNull
  let ordered (c : Comparison) : Bool := (orderNotNull order a b).any c.accepts
  match c with
  | .null => a.isNull
  | .notNull => !a.isNull
  | .unset => a.isFalsy
  | .equal => bothNull || ordered .equal
  | .notEqual => !(bothNull || ordered .equal)
  | .less => ordered .less
  | .greater => ordered .greater
  | .atMost => bothNull || ordered .atMost
  | .atLeast => bothNull || ordered .atLeast
  | .between => liesBetween order a b (operands[1]?.getD .null)

/-- Whether a value stands at the end of every sorted list. -/
def isMissing (v : Value) : Bool := v.isNull || v.isInvalid

/-- The place of one value before or after another when values are sorted; values that are not
ordered count as equal. -/
def sort (order : Value → Value → Option Ordering) (a b : Value) : Ordering :=
  match isMissing a, isMissing b with
  | false, false => (order a b).getD .eq
  | true, true => .eq
  | true, false => .gt
  | false, true => .lt

end Comparison

end EntityStore
