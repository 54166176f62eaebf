import EntityStore.Number.Reader
import EntityStore.Property
import EntityStore.Text.CaseMap
import EntityStore.Time.Reader

set_option autoImplicit false

/-! # Coercion: the form in which a type keeps a value

`ScalarType.coerce` makes of any value the form that values of a type have. What cannot be
converted becomes `invalid` for whole numbers, numbers and dates, and `null` for the other types.
`null` becomes the default, if there is one. -/

namespace EntityStore.ScalarType

/-! ## Numbers -/

/-- The whole number nearest to a number. -/
def wholeOf (x : Binary64) : Value :=
  if !x.isFinite then .invalid
  else match Whole.ofInt? x.roundToInt with
    | some i => .integer i
    | none => .invalid

def toWhole : Value → Value
  | .integer i => .integer i
  | .number x => wholeOf x
  | .bool b => .integer (if b then 1 else 0)
  | .date t => .integer (Int64.ofInt t.millis)
  | .string s =>
    let s := Text.trim s
    if s.isEmpty then .null
    else match Whole.ofText? s with
      | some i => .integer i
      | none => match Binary64.ofText? s with
        | some x => wholeOf x
        | none => .invalid
  | .null => .null
  | .invalid | .uuid _ | .binary _ => .invalid

def finite (x : Binary64) : Value := if x.isFinite then .number x else .invalid

def toNumber : Value → Value
  | .number x => finite x
  | .integer i => .number (Binary64.ofInt i.toInt)
  | .bool b => .number (Binary64.ofInt (if b then 1 else 0))
  | .date t => .number (Binary64.ofInt t.millis)
  | .string s =>
    let s := Text.trim s
    if s.isEmpty then .null
    else match Binary64.ofText? s with
      | some x => finite x
      | none => .invalid
  | .null => .null
  | .invalid | .uuid _ | .binary _ => .invalid

/-! ## Truth values -/

/-- The words for true. -/
def trueWords : List String := ["true", "yes", "y", "on", "set", "1"]

/-- The words for false. -/
def falseWords : List String := ["false", "no", "n", "off", "unset", "0"]

def toBoolean : Value → Value
  | .bool b => .bool b
  | .integer i => .bool (i != 0)
  | .number x => if x.isNaN then .null else .bool !x.isZero
  | .string s =>
    let word := Text.fold s
    if trueWords.contains word then .bool true
    else if falseWords.contains word then .bool false
    else .null
  | .null | .invalid | .date _ | .uuid _ | .binary _ => .null

/-! ## Dates -/

/-- A date, if there is one. -/
def dateOr : Option Instant → Value
  | some t => .date t
  | none => .invalid

/-- The date that a text stands for. -/
def dateOfText (s : String) : Value :=
  let s := Text.trim s
  if s.isEmpty then .null else dateOr (Instant.ofText? s)

def toDate : Value → Value
  | .date t => dateOr t.truncate?
  | .integer i => dateOr (Instant.ofMillis? i.toInt)
  | .number x => if x.isFinite then dateOr (Instant.ofMillis? x.roundToInt) else .invalid
  | .string s => dateOfText s
  | .null => .null
  | .invalid | .bool _ | .uuid _ | .binary _ => .invalid

/-! ## Identifiers -/

def toIdentity (v : Value) : Value :=
  match v.identity? with
  | some u => .uuid u
  | none => .null

/-! ## Texts -/

/-- The text of bytes that encode one. -/
def textOfBytes? (bytes : List UInt8) : Option String := String.fromUTF8? ⟨bytes.toArray⟩

/-- The text of a value that has one. -/
def plainText? : Value → Option String
  | .string s => some s
  | .bool b => some (if b then "true" else "false")
  | .integer i => some (toString i.toInt)
  | .number x => if x.isFinite then some x.toText else none
  | .date t => some t.toText
  | .uuid u => some u.toText
  | .binary bytes => textOfBytes? bytes
  | .null | .invalid => none

/-- Bring a text into the form that the definition of its property asks for. -/
def shape (p : Property) (s : String) : String :=
  let s := if p.trim then Text.trim s else s
  let s := if p.reduceSpace then Text.collapse s else s
  if p.upperCase then Text.upper s else if p.lowerCase then Text.lower s else s

def toString (p : Property) (v : Value) : Value :=
  match plainText? v with
  | some s => .string (shape p s)
  | none => .null

/-! ## All types -/

/-- The value to convert: the default in place of `null`. -/
def input (default : Option Value) (v : Value) : Value := if v.isNull then default.getD .null else v

/-- Bring a value into the form in which a type keeps it, under the definition of its property. -/
def coerce (t : ScalarType) (p : Property) (default : Option Value) (v : Value) : Value :=
  let v := input default v
  match t with
  | .string => toString p v
  | .integer => toWhole v
  | .number => toNumber v
  | .boolean => toBoolean v
  | .date => toDate v
  | .uuid => toIdentity v
  | .any => v

end EntityStore.ScalarType
