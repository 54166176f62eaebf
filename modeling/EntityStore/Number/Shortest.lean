import EntityStore.Number.Binary64

set_option autoImplicit false

/-! # The shortest decimal of a number

Every positive finite number is written with the fewest digits that read back as it. The reals that
round to `m · 2^q` form an interval around it that reaches half way to each neighbour, its ends
included exactly when `m` is even. For 1, 2, … 17 digits, the two multiples of a power of ten next
to the number are tried: if any multiple lies in the interval, one of these two does. The first
power with a hit gives the length, the nearer of two hits the digits. -/

namespace EntityStore

/-- The positive number `digits · 10 ^ exponent`. -/
structure Decimal where
  digits : Nat
  /-- The power of ten of the last digit. -/
  exponent : Int
deriving DecidableEq, Repr

namespace Decimal

/-- The same number without zeros at the end of its digits. -/
def normalize (d : Decimal) : Decimal :=
  go d.digits d.exponent
where
  go (n : Nat) (e : Int) : Decimal :=
    if h : n ≠ 0 ∧ n % 10 = 0 then go (n / 10) (e + 1) else ⟨n, e⟩
  termination_by n
  decreasing_by omega

def digitChars (d : Decimal) : List Char := Nat.toDigits 10 d.digits

/-- How many digits stand before the decimal point; negative for zeros after it. -/
def point (d : Decimal) : Int := (d.digitChars.length : Int) + d.exponent

end Decimal

namespace Binary64

/-- The reals that round to a positive number, and the number itself, in units of
`1 / denominator`. -/
structure Interval where
  low : Nat
  value : Nat
  high : Nat
  /-- The unit. -/
  denominator : Nat
  /-- Whether the ends belong to the interval. -/
  closed : Bool

/-- The interval of the reals that round to the absolute value of a finite number. -/
def interval (x : Binary64) : Interval :=
  let m := x.significand
  let shift := x.exponent - 2
  let unit := 2 ^ shift.toNat
  let below := if x.magnitude % 2 ^ 52 = 0 ∧ 2 ≤ x.magnitude / 2 ^ 52 then 1 else 2
  { low := (4 * m - below) * unit
    value := 4 * m * unit
    high := (4 * m + 2) * unit
    denominator := 2 ^ (-shift).toNat
    closed := m % 2 == 0 }

/-- Whether `k · 10^p` lies in the interval, for `10^p = up / down`. -/
def Interval.holds (i : Interval) (k up down : Nat) : Bool :=
  let t := k * up * i.denominator
  if i.closed then i.low * down ≤ t && t ≤ i.high * down
  else i.low * down < t && t < i.high * down

/-- The multiple of `10^p` in the interval that is nearest to its number, if there is one. Of two
that are equally near, the upper one if `tieUp`, else the even one. -/
def Interval.nearestMultiple? (i : Interval) (tieUp : Bool) (p : Int) : Option Nat :=
  let up := 10 ^ p.toNat
  let down := 10 ^ (-p).toNat
  let whole := i.denominator * up
  let k := i.value * down / whole
  let r := i.value * down % whole
  let upper := whole < 2 * r || (2 * r == whole && (tieUp || k % 2 == 1))
  let nearer := if upper then k + 1 else k
  let farther := if upper then k else k + 1
  if i.holds nearer up down then some nearer
  else if i.holds farther up down then some farther
  else none

/-- The number of decimal digits before the point of the interval's number (zero or negative for a
number below one), from an estimate that is off by at most one. -/
def Interval.leadingDigits (i : Interval) : Int :=
  let estimate : Int := ((i.value.log2 : Int) - (i.denominator.log2 : Int)) * 30103 / 100000 + 1
  let reaches (k : Int) : Bool :=
    i.denominator * 10 ^ k.toNat ≤ i.value * 10 ^ (-k).toNat
  if reaches estimate then estimate + 1
  else if reaches (estimate - 1) then estimate
  else estimate - 1

/-- The shortest decimal that reads back as the absolute value of a finite number other than
zero. -/
def shortest (tieUp : Bool) (x : Binary64) : Decimal :=
  let i := x.interval
  let leading := i.leadingDigits
  let found := (List.range 17).findSome? fun (n : Nat) =>
    let p := leading - ((n : Int) + 1)
    (i.nearestMultiple? tieUp p).map fun k => Decimal.mk k p
  (found.getD ⟨i.value, 0⟩).normalize

/-! ## Layouts -/

/-- The decisions by which a format writes numbers. -/
structure Layout where
  /-- The least exponent of the leading digit that is written without an exponent. -/
  positionalFrom : Option Int
  /-- The exponent of the leading digit from which on an exponent is written. -/
  positionalBelow : Option Int
  /-- Whether whole numbers without exponent get `.0`. -/
  pointZero : Bool
  /-- Whether positive exponents get a plus sign. -/
  plusSign : Bool
  /-- Whether the upper of two equally near shortest decimals is taken; else the even one. -/
  tieUp : Bool

namespace Layout

/-- Whether a leading digit of this exponent is written without an exponent. -/
def isPositional (l : Layout) (e : Int) : Bool :=
  l.positionalFrom.all (· ≤ e) && l.positionalBelow.all (e < ·)

/-- Digits with the decimal point in its place. -/
def positional (l : Layout) (digits : List Char) (point : Int) : List Char :=
  let n : Int := digits.length
  if point ≤ 0 then ['0', '.'] ++ List.replicate (-point).toNat '0' ++ digits
  else if n ≤ point then
    digits ++ List.replicate (point - n).toNat '0' ++ if l.pointZero then ['.', '0'] else []
  else digits.take point.toNat ++ '.' :: digits.drop point.toNat

/-- Digits with the point after the first one, and an exponent. -/
def scientific (l : Layout) (digits : List Char) (point : Int) : List Char :=
  let e := point - 1
  let fraction := match digits.drop 1 with
    | [] => []
    | rest => '.' :: rest
  let sign := if e < 0 then ['-'] else if l.plusSign then ['+'] else []
  digits.take 1 ++ fraction ++ ['e'] ++ sign ++ Nat.toDigits 10 e.natAbs

/-- The text of a number. -/
def write (l : Layout) (x : Binary64) : String :=
  if x.isNaN then "NaN"
  else
    let sign := if x.isNegative then ['-'] else []
    if !x.isFinite then String.ofList (sign ++ ['i', 'n', 'f'])
    else if x.isZero then String.ofList (sign ++ l.positional ['0'] 1)
    else
      let d := x.shortest l.tieUp
      let digits := d.digitChars
      let body := if l.isPositional (d.point - 1) then l.positional digits d.point
        else l.scientific digits d.point
      String.ofList (sign ++ body)

/-- How numbers stand in running text: never with an exponent, whole numbers without a point. -/
def plain : Layout := ⟨none, none, false, false, true⟩

/-- How numbers are shown inside a quoted value: with a point always, and with an exponent below
10⁻⁴ and from 10¹⁶ on. -/
def shown : Layout := ⟨some (-4), some 16, true, false, true⟩

/-- How numbers stand in a document: with a point always, and with a signed exponent below 10⁻⁵
and from 10¹⁶ on. -/
def document : Layout := ⟨some (-5), some 16, true, true, false⟩

end Layout

/-- The number in running text. -/
def toText (x : Binary64) : String := Layout.plain.write x

end Binary64

end EntityStore
