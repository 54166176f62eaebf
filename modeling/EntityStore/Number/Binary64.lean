import EntityStore.Number.Power

set_option autoImplicit false

/-! # Numbers of double precision, exactly

A `Binary64` is one of the 2⁶⁴ bit patterns of the IEEE 754 format of that name. Everything this
library asks of such numbers (their order, their arithmetic, their reading and writing) is defined
here on the exact value that a pattern stands for, in whole-number arithmetic, so that it can be
reasoned about: an operation computes the exact result and rounds it once, to the nearest number,
a tie to the even one (`ofRatio`).

A finite number is `± m · 2^q` with `m < 2⁵³` and `q ≥ -1074`. Patterns with the largest exponent
field are the two infinities and the NaNs. -/

namespace EntityStore

/-- A number of double precision, as its bit pattern. -/
structure Binary64 where
  /-- Sign bit, eleven bits of exponent, 52 bits of fraction. -/
  bits : UInt64
deriving DecidableEq, Repr, Inhabited

namespace Binary64

/-! ## The parts of a pattern -/

/-- The pattern without its sign bit; it grows with the absolute value. -/
def magnitude (x : Binary64) : Nat := x.bits.toNat % 2 ^ 63

/-- The pattern of the infinities without the sign bit. -/
def infinityMagnitude : Nat := 2047 * 2 ^ 52

def isNegative (x : Binary64) : Bool := 2 ^ 63 ≤ x.bits.toNat

/-- Whether the pattern stands for no number at all. -/
def isNaN (x : Binary64) : Bool := infinityMagnitude < x.magnitude

/-- Whether the pattern stands for a real number. -/
def isFinite (x : Binary64) : Bool := x.magnitude < infinityMagnitude

def isZero (x : Binary64) : Bool := x.magnitude == 0

/-- The pattern with a sign and a magnitude; magnitudes past the infinities become infinite. -/
def ofMagnitude (negative : Bool) (n : Nat) : Binary64 :=
  ⟨UInt64.ofNat (min n infinityMagnitude + if negative then 2 ^ 63 else 0)⟩

def zero (negative : Bool) : Binary64 := ofMagnitude negative 0

def infinity (negative : Bool) : Binary64 := ofMagnitude negative infinityMagnitude

/-- A pattern that stands for no number. -/
def nan : Binary64 := ⟨UInt64.ofNat (infinityMagnitude + 2 ^ 51)⟩

/-- The whole number `m` of a finite number `± m · 2^q`. -/
def significand (x : Binary64) : Nat :=
  let field : Nat := x.magnitude / 2 ^ 52
  let fraction : Nat := x.magnitude % 2 ^ 52
  if field = 0 then fraction else 2 ^ 52 + fraction

/-- The exponent `q` of a finite number `± m · 2^q`. -/
def exponent (x : Binary64) : Int :=
  let field : Nat := x.magnitude / 2 ^ 52
  if field = 0 then -1074 else (field : Int) - 1075

/-- The significand with the sign. -/
def signedSignificand (x : Binary64) : Int :=
  if x.isNegative then -(x.significand : Int) else x.significand

/-! ## Order -/

/-- A whole number that is ordered as the numbers are; both zeros have the key 0. -/
def orderKey (x : Binary64) : Int :=
  if x.isNegative then -(x.magnitude : Int) else x.magnitude

/-- The order of two numbers; a NaN is not ordered with anything. -/
def compare? (x y : Binary64) : Option Ordering :=
  if x.isNaN || y.isNaN then none else some (compare x.orderKey y.orderKey)

/-- Whether two patterns stand for the same number: the zeros do, a NaN never does. -/
def equals (x y : Binary64) : Bool := x.compare? y == some .eq

/-- Whether one number is below another. -/
def less (x y : Binary64) : Bool := x.compare? y == some .lt

theorem compare?_swap (x y : Binary64) : y.compare? x = (x.compare? y).map Ordering.swap := by
  unfold compare?
  by_cases h : x.isNaN || y.isNaN
  · have h' : (y.isNaN || x.isNaN) = true := by simpa [Bool.or_comm] using h
    simp [h, h']
  · have h' : (y.isNaN || x.isNaN) = false := by simpa [Bool.or_comm] using h
    simp only [Bool.not_eq_true] at h
    simp [h, h', Int.compare_swap]

theorem equals_iff {x y : Binary64} :
    x.equals y = true ↔ x.isNaN = false ∧ y.isNaN = false ∧ x.orderKey = y.orderKey := by
  unfold equals compare?
  by_cases hx : x.isNaN <;> by_cases hy : y.isNaN <;> simp [hx, hy]

theorem equals_trans {x y z : Binary64} (h : x.equals y = true) (h' : y.equals z = true) :
    x.equals z = true := by
  rw [equals_iff] at *
  exact ⟨h.1, h'.2.1, h.2.2.trans h'.2.2⟩

/-! ## Rounding -/

/-- The whole number nearest to `n / d`, a tie going to the even one. -/
def nearestEven (n d : Nat) : Nat :=
  let k := n / d
  let r := n % d
  if d < 2 * r ∨ (2 * r = d ∧ k % 2 = 1) then k + 1 else k

/-- `n · 2^k / (d · 2^l)` with the powers on the side where they are whole. -/
def scaledRatio (n d : Nat) (shift : Int) : Nat × Nat :=
  if 0 ≤ shift then (n * 2 ^ shift.toNat, d) else (n, d * 2 ^ (-shift).toNat)

/-- The exponent with which `n / d` has a significand of 53 bits, not below the least one. -/
def exponentFor (n d : Nat) : Int :=
  let guess := max ((n.log2 : Int) - (d.log2 : Int) - 53) (-1074)
  let (a, b) := scaledRatio n d (-guess)
  if a / b < 2 ^ 53 then guess else guess + 1

/-- The number nearest to `± n / d`, a tie going to the even significand. -/
def ofRatio (negative : Bool) (n d : Nat) : Binary64 :=
  if n = 0 then zero negative
  else
    let q := exponentFor n d
    let (a, b) := scaledRatio n d (-q)
    ofMagnitude negative ((q + 1074).toNat * 2 ^ 52 + nearestEven a b)

/-- The number nearest to `± n · 2^q`. -/
def ofDyadic (negative : Bool) (n : Nat) (q : Int) : Binary64 :=
  let (a, b) := scaledRatio n 1 q
  ofRatio negative a b

/-- The number nearest to a whole number. -/
def ofInt (i : Int) : Binary64 := ofRatio (i < 0) i.natAbs 1

/-- The number nearest to `± digits · 10^e`. Powers of ten that lie past the largest number or
below half the smallest one are not computed. -/
def ofDecimal (negative : Bool) (digits : Nat) (e : Int) : Binary64 :=
  if digits = 0 then zero negative
  else if 400 < e then infinity negative
  else if (digits.log2 : Int) / 3 + 1 + e < -400 then zero negative
  else if 0 ≤ e then ofRatio negative (digits * 10 ^ e.toNat) 1
  else ofRatio negative digits (10 ^ (-e).toNat)

example : (ofInt 1).bits = 0x3FF0000000000000 := by decide +kernel
example : (ofDecimal false 1 (-1)).bits = 0x3FB999999999999A := by decide +kernel
example : (ofDecimal true 5 (-324)).bits = 0x8000000000000001 := by decide +kernel
example : (ofDecimal false 17 307).isFinite = true := by decide +kernel
example : ofDecimal false 18 308 = infinity false := by decide +kernel

/-! ## Arithmetic -/

def abs (x : Binary64) : Binary64 := ⟨UInt64.ofNat x.magnitude⟩

def neg (x : Binary64) : Binary64 :=
  ⟨UInt64.ofNat (x.magnitude + if x.isNegative then 0 else 2 ^ 63)⟩

def sub (x y : Binary64) : Binary64 :=
  if x.isNaN || y.isNaN then nan
  else match x.isFinite, y.isFinite with
    | false, false => if x.isNegative == y.isNegative then nan else x
    | false, true => x
    | true, false => infinity !y.isNegative
    | true, true =>
      let q := min x.exponent y.exponent
      let whole (z : Binary64) : Int := z.signedSignificand * 2 ^ (z.exponent - q).toNat
      let difference := whole x - whole y
      if difference = 0 then zero (x.isNegative && !y.isNegative && x.isZero)
      else ofDyadic (difference < 0) difference.natAbs q

def mul (x y : Binary64) : Binary64 :=
  let negative := x.isNegative != y.isNegative
  if x.isNaN || y.isNaN then nan
  else if x.isFinite && y.isFinite then
    ofDyadic negative (x.significand * y.significand) (x.exponent + y.exponent)
  else if x.isZero || y.isZero then nan
  else infinity negative

def div (x y : Binary64) : Binary64 :=
  let negative := x.isNegative != y.isNegative
  if x.isNaN || y.isNaN then nan
  else match x.isFinite, y.isFinite with
    | false, false => nan
    | false, true => infinity negative
    | true, false => zero negative
    | true, true =>
      if y.isZero then (if x.isZero then nan else infinity negative)
      else
        let (a, b) := scaledRatio x.significand y.significand (x.exponent - y.exponent)
        ofRatio negative a b

/-! ## Whole numbers -/

/-- The absolute value of the whole number nearest to a finite number, a tie going away from
zero. -/
def nearestWhole (x : Binary64) : Nat :=
  let (a, b) := scaledRatio x.significand 1 x.exponent
  (2 * a + b) / (2 * b)

/-- The absolute value of a finite number without its fraction. -/
def wholePart (x : Binary64) : Nat :=
  let (a, b) := scaledRatio x.significand 1 x.exponent
  a / b

def isWhole (x : Binary64) : Bool :=
  let (a, b) := scaledRatio x.significand 1 x.exponent
  a % b == 0

/-- The whole number nearest to a finite number, a tie going away from zero. -/
def roundToInt (x : Binary64) : Int :=
  if x.isNegative then -(x.nearestWhole : Int) else x.nearestWhole

/-- The number rounded to a whole number, a tie going away from zero; the sign stays, and numbers
that are not finite stay as they are. -/
def round (x : Binary64) : Binary64 :=
  if x.isFinite then ofRatio x.isNegative x.nearestWhole 1 else x

example : (ofDecimal true 485 (-1)).roundToInt = -49 := by decide +kernel
example : (ofDecimal false 49999999999999994 (-17)).roundToInt = 0 := by decide +kernel

end Binary64

end EntityStore
