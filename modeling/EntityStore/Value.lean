import EntityStore.Bag
import EntityStore.Number.Binary64
import EntityStore.Text.Blank
import EntityStore.Time.Instant
import EntityStore.Uuid

set_option autoImplicit false

/-! # Values

The properties of an item hold scalars of several kinds. Besides nothing (`null`) there is a mark
for input that the type of its property cannot represent (`invalid`); it is kept until validation
reports it.

Values of one kind are ordered, and whole numbers and numbers are ordered with each other;
other pairs are not (`looseOrder?`). -/

namespace EntityStore

inductive Value
  | null
  /-- What became of input that could not be represented. -/
  | invalid
  | bool (b : Bool)
  /-- A whole number of 64 bits. -/
  | integer (i : Int64)
  | number (x : Binary64)
  | string (s : String)
  | date (t : Instant)
  | uuid (u : Uuid)
  | binary (bytes : List UInt8)
deriving DecidableEq

instance : Inhabited Value := ⟨.null⟩

/-- The properties of an item. -/
abbrev Properties := Bag Value

/-- The properties of an item in the form in which a store holds them. -/
abbrev Record := Bag Value

namespace Value

/-- Whether a value is nothing. -/
def isNull : Value → Bool
  | .null => true
  | _ => false

/-- Whether a value is marked as not represented; numbers that are no number count. -/
def isInvalid : Value → Bool
  | .invalid => true
  | .number x => x.isNaN
  | _ => false

/-- Whether a value counts as not set. -/
def isFalsy : Value → Bool
  | .null | .invalid => true
  | .bool b => !b
  | .integer i => i == 0
  | .number x => x.isZero || x.isNaN
  | .string s => s.isEmpty
  | .binary bytes => bytes.isEmpty
  | .date _ | .uuid _ => false

def kind : Value → String
  | .null => "null"
  | .invalid => "invalid"
  | .bool _ => "boolean"
  | .integer _ => "integer"
  | .number _ => "number"
  | .string _ => "string"
  | .date _ => "date"
  | .uuid _ => "uuid"
  | .binary _ => "binary"

/-! ## Views -/

def text? : Value → Option String
  | .string s => some s
  | _ => none

def bool? : Value → Option Bool
  | .bool b => some b
  | _ => none

def integer? : Value → Option Int64
  | .integer i => some i
  | _ => none

/-- The number of a value that is a whole number or a number. -/
def number? : Value → Option Binary64
  | .integer i => some (Binary64.ofInt i.toInt)
  | .number x => some x
  | _ => none

def date? : Value → Option Instant
  | .date t => some t
  | _ => none

def uuid? : Value → Option Uuid
  | .uuid u => some u
  | _ => none

/-! ## Sameness and order -/

/-- Whether two values are the same: of one kind, with the same content. Numbers are the same if
they stand for the same number, so one that is no number is not even the same as itself. -/
def same : Value → Value → Bool
  | .number x, .number y => x.equals y
  | .number _, _ => false
  | _, .number _ => false
  | a, b => decide (a = b)

/-- The order of two texts, by code points. -/
def orderText (a b : String) : Ordering :=
  if a < b then .lt else if a = b then .eq else .gt

/-- The order of two byte sequences: by the first byte that differs, else by length. -/
def orderBytes : List UInt8 → List UInt8 → Ordering
  | [], [] => .eq
  | [], _ :: _ => .lt
  | _ :: _, [] => .gt
  | a :: as, b :: bs =>
    match compare a.toNat b.toNat with
    | .eq => orderBytes as bs
    | o => o

/-- The order of two values without knowledge of the type of their property: values of one kind
are ordered, and whole numbers and numbers with each other, as numbers of double precision. -/
def looseOrder? : Value → Value → Option Ordering
  | .bool a, .bool b => some (compare a.toNat b.toNat)
  | .integer a, .integer b => some (compare a.toInt b.toInt)
  | .string a, .string b => some (orderText a b)
  | .date a, .date b => some (a.order b)
  | .uuid a, .uuid b => some (a.order b)
  | .binary a, .binary b => some (orderBytes a b)
  | a, b =>
    match a.number?, b.number? with
    | some x, some y => x.compare? y
    | _, _ => none

/-! ## Identities -/

/-- Whether a value already is an identifier in one of the shapes in which they are stored: one of
its own kind, 16 bytes, or its text. -/
def isIdentity : Value → Bool
  | .uuid _ => true
  | .binary bytes => bytes.length == 16
  | .string s => Uuid.isCanonicalText s
  | _ => false

/-- The identifier that a value describes: its own, the one of its 16 bytes, or the one that its
text stands for, blanks around it left out. -/
def identity? : Value → Option Uuid
  | .uuid u => some u
  | .binary bytes => Uuid.ofBytes? bytes
  | .string s => Uuid.ofText? (Text.trim s)
  | _ => none

end Value

end EntityStore
