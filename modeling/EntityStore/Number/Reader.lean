import EntityStore.Number.Binary64
import EntityStore.Text.Blank

set_option autoImplicit false

/-! # Reading numbers from text

Two readers of a whole text, without blanks around it. `Whole.ofText?` takes an optional sign and
decimal digits, within the range of 64-bit integers. `Binary64.ofText?` takes an optional sign and
either a name (`inf`, `infinity`, `nan`, in any case) or digits with an optional point and an
optional exponent, and gives the nearest number. Digits are the ASCII ones only. -/

namespace EntityStore

/-! ## Digits -/

namespace Digits

/-- The digits at the front of a text, and what follows them. -/
def split (s : List Char) : List Char × List Char :=
  (s.takeWhile Char.isDigit, s.dropWhile Char.isDigit)

/-- The value of decimal digits. -/
def value (digits : List Char) : Nat :=
  digits.foldl (fun n c => n * 10 + (c.toNat - 0x30)) 0

/-- The value of a text that is decimal digits and nothing else. -/
def value? (s : List Char) : Option Nat :=
  if s.isEmpty || !s.all Char.isDigit then none else some (value s)

/-- Take a sign off the front of a text; `true` is minus. -/
def takeSign : List Char → Bool × List Char
  | '-' :: rest => (true, rest)
  | '+' :: rest => (false, rest)
  | s => (false, s)

end Digits

/-! ## Whole numbers -/

namespace Whole

def least : Int := -2 ^ 63

/-- One more than the largest 64-bit integer. -/
def bound : Int := 2 ^ 63

/-- A whole number as a 64-bit integer, if it is one. -/
def ofInt? (i : Int) : Option Int64 :=
  if least ≤ i ∧ i < bound then some (Int64.ofInt i) else none

/-- Read a 64-bit integer: an optional sign and digits. -/
def ofText? (s : String) : Option Int64 := do
  let (negative, rest) := Digits.takeSign s.toList
  let n ← Digits.value? rest
  ofInt? (if negative then -(n : Int) else n)

example : ofText? "-9223372036854775808" = some Int64.minValue := by decide +kernel
example : ofText? "9223372036854775808" = none := by decide +kernel
example : ofText? "+" = none := by decide +kernel

end Whole

/-! ## Numbers -/

namespace Binary64

/-- Read the exponent of a number: nothing, or `e` with an optional sign and digits. -/
def readExponent? : List Char → Option Int
  | [] => some 0
  | c :: rest =>
    if c = 'e' ∨ c = 'E' then do
      let (negative, digits) := Digits.takeSign rest
      let n ← Digits.value? digits
      return if negative then -(n : Int) else n
    else none

/-- Read digits with an optional point and exponent. -/
def readDecimal? (negative : Bool) (s : List Char) : Option Binary64 := do
  let (whole, rest) := Digits.split s
  let (fraction, rest) := match rest with
    | '.' :: tail => Digits.split tail
    | _ => ([], rest)
  if whole.isEmpty && fraction.isEmpty then none
  let e ← readExponent? rest
  return ofDecimal negative (Digits.value (whole ++ fraction)) (e - fraction.length)

def ofText? (s : String) : Option Binary64 :=
  let (negative, rest) := Digits.takeSign s.toList
  let name := String.ofList (rest.map Char.toLower)
  if name = "inf" || name = "infinity" then some (infinity negative)
  else if name = "nan" then some nan
  else readDecimal? negative rest

example : ofText? "-.5" = some (ofRatio true 1 2) := by decide +kernel
example : ofText? "." = none ∧ ofText? "1e" = none ∧ ofText? "+" = none := by decide +kernel
example : ofText? "5.e0" = some (ofInt 5) := by decide +kernel

end Binary64

end EntityStore
