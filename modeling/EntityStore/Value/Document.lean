import EntityStore.Json.Mismatch
import EntityStore.Value

set_option autoImplicit false

/-! # Values as JSON documents

A value is written as a document of its own kind as far as there is one: dates and identifiers
become their texts, bytes a sequence of whole numbers, and what is not represented becomes `null`.

There are two readers, and they agree: `Value.ofJson` makes a value of every document and marks the
ones that describe none as invalid; `Value.ofJson?` tries the shapes that a value can have one
after the other and takes the first that fits. -/

namespace EntityStore.Value

def toJson : Value → Json
  | .null | .invalid => .null
  | .bool b => .bool b
  | .integer i => .integer i.toInt
  | .number x => if x.isFinite then .number x else .null
  | .string s => .string s
  | .date t => .string t.toText
  | .uuid u => .string u.toText
  | .binary bytes => .array (bytes.map fun b => .integer b.toNat)

/-! ## Reading -/

/-- A whole number from 0 to 255. -/
def byte? : Json → Option UInt8
  | .integer i => if 0 ≤ i ∧ i < 256 then some (UInt8.ofNat i.toNat) else none
  | _ => none

/-- The value of a document; documents that describe none give `invalid`. -/
def ofJson : Json → Value
  | .null => .null
  | .bool b => .bool b
  | .integer i => match Whole.ofInt? i with
    | some n => .integer n
    | none => .number (Binary64.ofInt i)
  | .number x => .number x
  | .string s => .string s
  | .array items => match items.mapM byte? with
    | some bytes => .binary bytes
    | none => .invalid
  | .object _ => .invalid

def asNull? : Json → Option Value
  | .null => some .null
  | _ => none

def asBool? : Json → Option Value
  | .bool b => some (.bool b)
  | _ => none

/-- A whole number of 64 bits. -/
def asInteger? : Json → Option Value
  | .integer i => (Whole.ofInt? i).map .integer
  | _ => none

/-- Any number. -/
def asNumber? : Json → Option Value
  | .integer i => some (.number (Binary64.ofInt i))
  | .number x => some (.number x)
  | _ => none

def asString? : Json → Option Value
  | .string s => some (.string s)
  | _ => none

/-- A sequence of whole numbers from 0 to 255. -/
def asBinary? : Json → Option Value
  | .array items => (items.mapM byte?).map .binary
  | _ => none

/-- The shapes a value can have, in the order in which they are tried. -/
def shapes : List (Json → Option Value) :=
  [asNull?, asBool?, asInteger?, asNumber?, asString?, asBinary?]

/-- The value of a document by the first shape that fits. -/
def ofJson? (j : Json) : Option Value := shapes.findSome? (· j)

/-- What a document without any of the shapes is told. -/
def noShape : Json.Mismatch := .noVariant "untagged enum Wire"

/-- Read a value whose document is nested at most `depth` deep. -/
def read (depth : Nat) : Json.Reader Value := fun s => do
  let (j, rest) ← Json.Reader.document depth s
  match ofJson? j with
  | some v => return (v, rest)
  | none => throw (.mismatch noShape)

/-- The value that a text holds. -/
def ofText (text : String) : Except Json.Fault Value := do
  let (v, rest) ← read Json.maxDepth (Json.skipSpace text.toList)
  Json.Reader.ending rest
  return v

/-! ## Records -/

/-- The compact text of the object that has the values of a record as members. -/
def recordText (record : Record) : String :=
  (Json.object (record.entries.map fun e => (e.1, e.2.toJson))).compact

/-- The record that the text of an object holds; of two members with one name the later counts. -/
def recordOfText (text : String) : Except Json.Fault Record := do
  match Json.skipSpace text.toList with
  | '\x7b' :: rest =>
    let member (name : String) (record : Record) : Json.Reader Record := fun s =>
      (read (Json.maxDepth - 1) s).map fun (v, rest) => (record.insert name v, rest)
    let (record, rest) ← Json.Reader.object member Bag.empty rest
    Json.Reader.ending rest
    return record
  | s => throw (Json.Reader.unexpected s "a map")

/-! ## Text in messages -/

/-- The text of a value in a message to the user. -/
def display : Value → String
  | .string s => s
  | .integer i => toString i.toInt
  | .number x => x.toText
  | .bool b => if b then "true" else "false"
  | v => match v.toJson with
    | .string s => s
    | j => j.compact

/-- Items with commas between them, in brackets. -/
def bracketed (items : List String) : String := "[" ++ ", ".intercalate items ++ "]"

/-- The text of a value in a message about a schema: its kind and its content. -/
def quoted : Value → String
  | .null => "Null"
  | .invalid => "Invalid"
  | .bool b => s!"Bool({b})"
  | .integer i => s!"Integer({i.toInt})"
  | .number x => s!"Number({Binary64.Layout.shown.write x})"
  | .string s => s!"String({Text.quote s})"
  | .date t => s!"Date({t.shown})"
  | .uuid u => s!"Uuid({u.toText})"
  | .binary bytes => s!"Binary({bracketed (bytes.map fun b => toString b.toNat)})"

end EntityStore.Value
