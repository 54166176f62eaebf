import EntityStore.Time.Calendar

set_option autoImplicit false

/-! # Points in time

An `Instant` is a second of universal time, counted from the start of 1970, and the nanoseconds
that have passed since it began. A leap second has no count of its own: it is the part from 10⁹
nanoseconds on of the second before it. Instants lie in the years -262143 to 262142.

Dates are kept with millisecond precision (`ofMillis?`, `truncate?`), so a leap second becomes the
second after it. -/

namespace EntityStore

/-- The first second of the first year. -/
def earliestSecond : Int := -8334601228800

/-- The last second of the last year. -/
def latestSecond : Int := 8210266876799

structure Instant where
  /-- Seconds since the start of 1970. -/
  seconds : Int
  /-- Nanoseconds since the second began; from 10⁹ on they belong to a leap second. -/
  nanos : Nat
  /-- The second lies in the years that are represented, and its length is at most two seconds. -/
  inRange : earliestSecond ≤ seconds ∧ seconds ≤ latestSecond ∧ nanos < 2000000000

namespace Instant

instance : DecidableEq Instant := fun a b =>
  decidable_of_iff (a.seconds = b.seconds ∧ a.nanos = b.nanos)
    ⟨fun h => by cases a; cases b; simp_all, fun h => h ▸ ⟨rfl, rfl⟩⟩

/-- The instant with given parts, if it can be represented. -/
def ofParts? (seconds : Int) (nanos : Nat) : Option Instant :=
  if h : earliestSecond ≤ seconds ∧ seconds ≤ latestSecond ∧ nanos < 2000000000 then
    some ⟨seconds, nanos, h⟩
  else none

/-- Milliseconds since the start of 1970, any further fraction cut off. -/
def millis (t : Instant) : Int := t.seconds * 1000 + ((t.nanos / 1000000 : Nat) : Int)

/-- The instant a number of milliseconds after the start of 1970, if it can be represented. -/
def ofMillis? (ms : Int) : Option Instant :=
  ofParts? (ms / 1000) ((ms % 1000).toNat * 1000000)

/-- The instant in whole milliseconds. -/
def truncate? (t : Instant) : Option Instant := ofMillis? t.millis

def order (a b : Instant) : Ordering :=
  match compare a.seconds b.seconds with
  | .eq => compare a.nanos b.nanos
  | o => o

theorem ofMillis?_millis {ms : Int} {t : Instant} (h : ofMillis? ms = some t) : t.millis = ms := by
  unfold ofMillis? ofParts? at h
  split at h
  · cases h
    simp only [millis]
    omega
  · contradiction

/-- Truncation gives an instant that truncation leaves alone. -/
theorem truncate?_of_ofMillis? {ms : Int} {t : Instant} (h : ofMillis? ms = some t) :
    t.truncate? = some t := by
  rw [truncate?, ofMillis?_millis h, h]

/-! ## Text -/

/-- A number with zeros in front, to at least `width` digits. -/
def padded (width n : Nat) : List Char :=
  let digits := Nat.toDigits 10 n
  List.replicate (width - digits.length) '0' ++ digits

/-- The year: four digits, or a sign and at least four digits outside of 0 to 9999. -/
def yearText (year : Int) : List Char :=
  if 0 ≤ year ∧ year ≤ 9999 then padded 4 year.toNat
  else (if year < 0 then '-' else '+') :: padded 4 year.natAbs

/-- Date and time of day to the second, with the `T` between them. -/
def secondText (t : Instant) : List Char :=
  let days := t.seconds / 86400
  let second := (t.seconds % 86400).toNat
  let d := CivilDate.ofDays days
  let leap := if 1000000000 ≤ t.nanos then 1 else 0
  yearText d.year ++ '-' :: padded 2 d.month ++ '-' :: padded 2 d.day ++
    'T' :: padded 2 (second / 3600) ++ ':' :: padded 2 (second / 60 % 60) ++
    ':' :: padded 2 (second % 60 + leap)

/-- The instant in universal time, to the millisecond. -/
def toText (t : Instant) : String :=
  String.ofList (t.secondText ++ '.' :: padded 3 (t.nanos % 1000000000 / 1000000) ++ ['Z'])

/-- The fraction of a second: nothing, or as many groups of three digits as it needs. -/
def fractionText (nanos : Nat) : List Char :=
  if nanos = 0 then []
  else if nanos % 1000000 = 0 then '.' :: padded 3 (nanos / 1000000)
  else if nanos % 1000 = 0 then '.' :: padded 6 (nanos / 1000)
  else '.' :: padded 9 nanos

/-- The instant in universal time, in full, as it is shown inside a quoted value. -/
def shown (t : Instant) : String :=
  String.ofList (t.secondText ++ fractionText (t.nanos % 1000000000) ++ ['Z'])

end Instant

end EntityStore
