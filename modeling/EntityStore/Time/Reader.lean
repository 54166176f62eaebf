import EntityStore.Number.Reader
import EntityStore.Time.Instant

set_option autoImplicit false

/-! # Reading points in time

A text is read as a date by the first of these forms that fits it in whole:

* the internet form (RFC 3339): `2024-03-01T10:20:30.5+01:00`, four digits for the year, two for
  the rest, `T`, `t` or a space between date and time, a fraction of any length, and `Z`, `z` or an
  offset of at most 23:59;
* three forms without an offset, in universal time: date and time to the second with `T` or with
  any number of blanks between them, and date and time to the minute with `T`. Here the year may
  have a sign and then any number of digits, the other fields may have one digit, and blanks may
  stand before each field;
* such a date alone;
* a number of milliseconds since the start of 1970.

Fields must be in range and the day must exist. Second 60 is a leap second. -/

namespace EntityStore.Instant

/-! ## Fields -/

/-- Date and time of day as they were read. -/
structure Fields where
  date : CivilDate := ⟨0, 0, 0⟩
  hour : Nat := 0
  minute : Nat := 0
  /-- The second; 60 is a leap second. -/
  second : Nat := 0
  nanos : Nat := 0

/-- Whether date and time exist and the year is represented. -/
def Fields.isValid (f : Fields) : Bool :=
  f.date.isValid && -262143 ≤ f.date.year && f.date.year ≤ 262142 &&
    f.hour ≤ 23 && f.minute ≤ 59 && f.second ≤ 60

/-- Milliseconds since the start of 1970, for fields in a time zone ahead of universal time by
`offset` seconds. -/
def Fields.millis (f : Fields) (offset : Int) : Int :=
  let second := f.date.toDays * 86400 + ((f.hour * 3600 + f.minute * 60 + f.second : Nat) : Int)
  (second - offset) * 1000 + ((f.nanos / 1000000 : Nat) : Int)

/-- Read at least `least` and at most `most` digits. -/
def takeNumber (least most : Nat) (s : List Char) : Option (Nat × List Char) :=
  let digits := (s.take most).takeWhile Char.isDigit
  if digits.length < least then none
  else some (Digits.value digits, s.drop digits.length)

/-- Read the digits of a fraction of a second; nine of them count. -/
def takeFraction (s : List Char) : Option (Nat × List Char) :=
  let (digits, rest) := Digits.split s
  if digits.isEmpty then none
  else
    let kept := digits.take 9
    some (Digits.value kept * 10 ^ (9 - kept.length), rest)

/-- Read a point and a fraction, if there is a point. -/
def takeOptionalFraction : List Char → Option (Nat × List Char)
  | '.' :: rest => takeFraction rest
  | s => some (0, s)

def takeChar (c : Char) : List Char → Option (List Char)
  | [] => none
  | d :: rest => if c = d then some rest else none

/-! ## The internet form -/

/-- Read the offset from universal time, in seconds: `Z`, or a sign, hours, a colon and minutes. -/
def takeOffset : List Char → Option (Int × List Char)
  | [] => none
  | c :: rest =>
    if c = 'Z' ∨ c = 'z' then some (0, rest)
    else if c = '+' ∨ c = '-' ∨ c = '\u2212' then do
      let (hours, rest) ← takeNumber 2 2 rest
      let rest ← takeChar ':' rest
      let (minutes, rest) ← takeNumber 2 2 rest
      if 23 < hours ∨ 59 < minutes then none
      let offset : Int := ((hours * 3600 + minutes * 60 : Nat) : Int)
      return (if c = '+' then offset else -offset, rest)
    else none

/-- Read the internet form, as milliseconds since the start of 1970. -/
def internetMillis? (s : List Char) : Option Int := do
  let (year, s) ← takeNumber 4 4 s
  let s ← takeChar '-' s
  let (month, s) ← takeNumber 2 2 s
  let s ← takeChar '-' s
  let (day, s) ← takeNumber 2 2 s
  let s ← (takeChar 'T' s <|> takeChar 't' s <|> takeChar ' ' s)
  let (hour, s) ← takeNumber 2 2 s
  let s ← takeChar ':' s
  let (minute, s) ← takeNumber 2 2 s
  let s ← takeChar ':' s
  let (second, s) ← takeNumber 2 2 s
  let (nanos, s) ← takeOptionalFraction s
  let (offset, s) ← takeOffset s
  let fields : Fields := { date := ⟨year, month, day⟩, hour, minute, second, nanos }
  if s.isEmpty && fields.isValid then some (fields.millis offset) else none

/-! ## Forms without an offset -/

/-- A part of a form. -/
inductive Part
  /-- The year, with a sign or at most four digits. -/
  | year
  | month
  | day
  | hour
  | minute
  | second
  /-- A point and a fraction of a second, or nothing. -/
  | fraction
  | mark (c : Char)
  | blanks

/-- Read a year: a sign and any number of digits, or at most four digits. -/
def takeYear (s : List Char) : Option (Int × List Char) :=
  match s with
  | '-' :: rest => (takeNumber 1 rest.length rest).map fun (n, r) => (-(n : Int), r)
  | '+' :: rest => (takeNumber 1 rest.length rest).map fun (n, r) => ((n : Int), r)
  | _ => (takeNumber 1 4 s).map fun (n, r) => ((n : Int), r)

/-- Read one part of a form. -/
def Part.take (part : Part) (f : Fields) (s : List Char) : Option (Fields × List Char) :=
  let field := takeNumber 1 2 (Text.trimFront s)
  match part with
  | .year => (takeYear (Text.trimFront s)).map fun (y, r) =>
      ({ f with date := { f.date with year := y } }, r)
  | .month => field.map fun (n, r) => ({ f with date := { f.date with month := n } }, r)
  | .day => field.map fun (n, r) => ({ f with date := { f.date with day := n } }, r)
  | .hour => field.map fun (n, r) => ({ f with hour := n }, r)
  | .minute => field.map fun (n, r) => ({ f with minute := n }, r)
  | .second => field.map fun (n, r) => ({ f with second := n }, r)
  | .fraction => (takeOptionalFraction s).map fun (n, r) => ({ f with nanos := n }, r)
  | .mark c => (takeChar c s).map fun r => (f, r)
  | .blanks => some (f, Text.trimFront s)

/-- A year, a month and a day with hyphens between them. -/
def dateForm : List Part := [.year, .mark '-', .month, .mark '-', .day]

/-- The time to the minute. -/
def minuteForm : List Part := [.hour, .mark ':', .minute]

/-- The time to the second, with an optional fraction. -/
def secondForm : List Part := minuteForm ++ [.mark ':', .second, .fraction]

/-- The forms without an offset, in the order in which they are tried. -/
def localForms : List (List Part) :=
  [dateForm ++ .mark 'T' :: secondForm,
   dateForm ++ .blanks :: secondForm,
   dateForm ++ .mark 'T' :: minuteForm,
   dateForm]

/-- Read a text by a form, as milliseconds since the start of 1970. -/
def formMillis? (form : List Part) (s : List Char) : Option Int := do
  let (fields, rest) ← form.foldlM (fun (f, r) part => part.take f r) (({} : Fields), s)
  if rest.isEmpty && fields.isValid then some (fields.millis 0) else none

/-! ## All forms -/

/-- Milliseconds since the start of 1970 of a text without blanks around it. -/
def textMillis? (s : String) : Option Int :=
  internetMillis? s.toList <|> localForms.findSome? (formMillis? · s.toList) <|>
    (Whole.ofText? s).map (·.toInt)

/-- The instant that a text without blanks around it stands for. -/
def ofText? (s : String) : Option Instant := (textMillis? s).bind ofMillis?

example : textMillis? "2016-12-31T23:59:60.5Z" = some 1483228800500 := by decide +kernel
example : textMillis? "2024-3-1" = some 1709251200000 := by decide +kernel
example : textMillis? "12024-01-01" = none := by decide +kernel

end EntityStore.Instant
