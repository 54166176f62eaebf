import EntityStore.Json.Document
import EntityStore.Number.Reader

set_option autoImplicit false

/-! # Reading JSON text

A reader takes what it reads off the front of a text and returns what it read and the rest, or
`none` if the text is not well formed. Objects and sequences may be nested 127 deep.

Numbers with a point or an exponent are read in two roundings, not one. The digits are collected in
a whole number as long as it fits 64 bits; later digits only count for the power of ten. That whole
number, rounded to double precision, is then multiplied or divided by the power of ten, which is
itself rounded. A result that is not finite is no number. -/

namespace EntityStore.Json

/-! ## Blanks and words -/

/-- Whether a character may stand between the parts of a document. -/
def isSpace (c : Char) : Bool := c == ' ' || c == '\n' || c == '\t' || c == '\r'

/-- Drop the blanks at the front. -/
def skipSpace (s : List Char) : List Char := s.dropWhile isSpace

/-- Take a word off the front. -/
def takeWord (word s : List Char) : Option (List Char) :=
  if s.take word.length = word then some (s.drop word.length) else none

/-! ## Texts -/

/-- Read four hexadecimal digits. -/
def takeHex4 (s : List Char) : Option (Nat × List Char) :=
  if (s.take 4).length = 4 then (Uuid.hexValue? (s.take 4)).map (·, s.drop 4) else none

/-- Read the number of an escaped character after `\u`; two halves make one character. -/
def takeEscapedCode (s : List Char) : Option (Char × List Char) := do
  let (n, rest) ← takeHex4 s
  if n < 0xD800 ∨ 0xDFFF < n then return (Char.ofNat n, rest)
  if 0xDC00 ≤ n then none
  let rest ← takeWord ['\\', 'u'] rest
  let (m, rest) ← takeHex4 rest
  if m < 0xDC00 ∨ 0xDFFF < m then none
  return (Char.ofNat (0x10000 + (n - 0xD800) * 0x400 + (m - 0xDC00)), rest)

/-- Read an escaped character after its backslash. -/
def takeEscape : List Char → Option (Char × List Char)
  | [] => none
  | c :: rest =>
    if c = '\x22' ∨ c = '\\' ∨ c = '/' then some (c, rest)
    else if c = 'b' then some ('\x08', rest)
    else if c = 'f' then some ('\x0c', rest)
    else if c = 'n' then some ('\n', rest)
    else if c = 'r' then some ('\r', rest)
    else if c = 't' then some ('\t', rest)
    else if c = 'u' then takeEscapedCode rest
    else none

/-- Read the characters of a text up to its closing mark; `fuel` bounds their number. -/
def takeCharsFrom : Nat → List Char → List Char → Option (String × List Char)
  | 0, _, _ => none
  | _ + 1, _, [] => none
  | fuel + 1, done, c :: rest =>
    if c = '\x22' then some (String.ofList done.reverse, rest)
    else if c = '\\' then
      match takeEscape rest with
      | some (d, rest) => takeCharsFrom fuel (d :: done) rest
      | none => none
    else if c.toNat < 0x20 then none
    else takeCharsFrom fuel (c :: done) rest

/-- Read a text after its opening mark. -/
def takeChars (s : List Char) : Option (String × List Char) := takeCharsFrom (s.length + 1) [] s

/-! ## Numbers -/

/-- The largest whole number in which digits are collected. -/
def significandBound : Nat := 2 ^ 64

/-- Collect digits into `n` as long as it fits 64 bits; the digits that do not fit any more are
counted. -/
def collectDigits : Nat → List Char → Nat × Nat
  | n, [] => (n, 0)
  | n, c :: rest =>
    let m := n * 10 + (c.toNat - 0x30)
    if m < significandBound then collectDigits m rest else (n, rest.length + 1)

/-- Divide by `10^e`, for a large `e` in steps of 308 as long as something is left. -/
def divideByPower (x : Binary64) (e : Nat) : Binary64 :=
  if h : e ≤ 308 then x.div (Binary64.ofDecimal false 1 e)
  else if x.isZero then x
  else divideByPower (x.div (Binary64.ofDecimal false 1 308)) (e - 308)
termination_by e

/-- The number of a significand and a power of ten: the significand rounded, then multiplied or
divided by the rounded power, rounded again. -/
def scaled? (negative : Bool) (significand : Nat) (e : Int) : Option Binary64 :=
  let x := Binary64.ofRatio false significand 1
  let y :=
    if e < 0 then divideByPower x e.natAbs
    else if e ≤ 308 then x.mul (Binary64.ofDecimal false 1 e)
    else if significand = 0 then x
    else Binary64.infinity false
  if y.isFinite then some (if negative then y.neg else y) else none

/-- Read an exponent after its letter. -/
def takeExponent (s : List Char) : Option (Int × List Char) :=
  let (negative, rest) := Digits.takeSign s
  let (digits, rest) := Digits.split rest
  if digits.isEmpty then none
  else
    let e : Int := Digits.value digits
    some (if negative then -e else e, rest)

/-- Read the exponent of a number whose digits are known. -/
def takeScaled (negative : Bool) (significand : Nat) (e : Int) (s : List Char) :
    Option (Json × List Char) :=
  match s with
  | c :: rest =>
    if c = 'e' ∨ c = 'E' then do
      let (f, rest) ← takeExponent rest
      return (.number (← scaled? negative significand (e + f)), rest)
    else (scaled? negative significand e).map (.number ·, s)
  | [] => (scaled? negative significand e).map (.number ·, s)

/-- Read a number after its sign. -/
def takeNumber (negative : Bool) (s : List Char) : Option (Json × List Char) :=
  let (whole, rest) := Digits.split s
  if whole.isEmpty || (whole.head? = some '0' && 1 < whole.length) then none
  else
    let (significand, dropped) := collectDigits 0 whole
    match rest with
    | '.' :: tail =>
      let (fraction, rest) := Digits.split tail
      if fraction.isEmpty then none
      else if dropped = 0 then
        let (significand, cut) := collectDigits significand fraction
        takeScaled negative significand (cut - fraction.length) rest
      else
        takeFractionOfLong negative significand dropped fraction rest
    | c :: _ =>
      if c = 'e' ∨ c = 'E' ∨ 0 < dropped then takeScaled negative significand dropped rest
      else some (wholeNumber significand, rest)
    | [] =>
      if 0 < dropped then takeScaled negative significand dropped rest
      else some (wholeNumber significand, rest)
where
  /-- A number without point and exponent whose digits fit 64 bits. -/
  wholeNumber (n : Nat) : Json :=
    if !negative then .integer n
    else if 0 < n ∧ n ≤ 2 ^ 63 then .integer (-(n : Int))
    else .number (Binary64.ofRatio true n 1)
  /-- A number with more digits before its point than fit: digits after the point are collected
  as if they followed the ones that fit. -/
  takeFractionOfLong (negative : Bool) (significand dropped : Nat) (fraction rest : List Char) :
      Option (Json × List Char) :=
    let (significand, cut) := collectDigits significand fraction
    takeScaled negative significand ((dropped : Int) + cut - fraction.length) rest

/-! ## Documents -/

/-- How deep objects and sequences may be nested. -/
def maxDepth : Nat := 127

/-- Read the items of a sequence after one of them, up to the closing bracket; `fuel` bounds
their number. -/
def takeItems (item : List Char → Option (Json × List Char)) :
    Nat → List Json → List Char → Option (List Json × List Char)
  | 0, _, _ => none
  | fuel + 1, done, s =>
    match skipSpace s with
    | ',' :: rest => do
      let (j, rest) ← item (skipSpace rest)
      takeItems item fuel (j :: done) rest
    | ']' :: rest => some (done.reverse, rest)
    | _ => none

def takeMember (item : List Char → Option (Json × List Char)) (s : List Char) :
    Option ((String × Json) × List Char) :=
  match s with
  | '\x22' :: rest => do
    let (name, rest) ← takeChars rest
    let rest ← takeWord [':'] (skipSpace rest)
    let (j, rest) ← item (skipSpace rest)
    return ((name, j), rest)
  | _ => none

/-- Read the members of an object after one of them, up to the closing brace; `fuel` bounds
their number. -/
def takeMembers (item : List Char → Option (Json × List Char)) :
    Nat → List (String × Json) → List Char → Option (List (String × Json) × List Char)
  | 0, _, _ => none
  | fuel + 1, done, s =>
    match skipSpace s with
    | ',' :: rest => do
      let (m, rest) ← takeMember item (skipSpace rest)
      takeMembers item fuel (m :: done) rest
    | '\x7d' :: rest => some (done.reverse, rest)
    | _ => none

def takeScalar (s : List Char) : Option (Json × List Char) :=
  match s with
  | 'n' :: _ => (takeWord ['n', 'u', 'l', 'l'] s).map (.null, ·)
  | 't' :: _ => (takeWord ['t', 'r', 'u', 'e'] s).map (.bool true, ·)
  | 'f' :: _ => (takeWord ['f', 'a', 'l', 's', 'e'] s).map (.bool false, ·)
  | '\x22' :: rest => (takeChars rest).map fun (t, rest) => (.string t, rest)
  | '-' :: rest => takeNumber true rest
  | _ => takeNumber false s

/-- Read a document that starts at the front of a text and is nested at most `depth` deep. -/
def take : Nat → List Char → Option (Json × List Char)
  | 0, s =>
    match s with
    | '[' :: _ => none
    | '\x7b' :: _ => none
    | _ => takeScalar s
  | depth + 1, s =>
    match s with
    | '[' :: rest =>
      match skipSpace rest with
      | ']' :: rest => some (.array [], rest)
      | rest => do
        let (j, rest) ← take depth rest
        let (items, rest) ← takeItems (take depth) (rest.length + 1) [j] rest
        return (.array items, rest)
    | '\x7b' :: rest =>
      match skipSpace rest with
      | '\x7d' :: rest => some (.object [], rest)
      | rest => do
        let (m, rest) ← takeMember (take depth) rest
        let (members, rest) ← takeMembers (take depth) (rest.length + 1) [m] rest
        return (.object members, rest)
    | _ => takeScalar s

/-- The document that a text holds, every member kept. -/
def ofText? (text : String) : Option Json := do
  let (j, rest) ← take maxDepth (skipSpace text.toList)
  if (skipSpace rest).isEmpty then some j else none

/-- The document that a text holds, each name of an object kept once. -/
def ofTextDistinct? (text : String) : Option Json := (ofText? text).map distinct

example : (ofText? " [1, -2.50e1 ] ").map compact = some "[1,-25.0]" := by decide +kernel
example : (ofText? "[1,]").isNone ∧ (ofText? "01").isNone ∧ (ofText? "1e400").isNone := by
  decide +kernel

end EntityStore.Json
