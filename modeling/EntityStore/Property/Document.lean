import EntityStore.Json.Mismatch
import EntityStore.Property
import EntityStore.Value.Document

set_option autoImplicit false

/-! # Definitions of properties as JSON documents

The members of the document of a property are read in their order, and the first one that does not
fit decides what is reported. The member `index` is taken out before and read by itself; the last
member takes its place. Members with other names are passed over. -/

namespace EntityStore.Property

def boolOfJson : Json → Except Json.Mismatch Bool
  | .bool b => .ok b
  | j => .error (.invalidType j.found "a boolean")

def textOfJson : Json → Except Json.Mismatch String
  | .string s => .ok s
  | j => .error (.invalidType j.found "a string")

def numberOfJson : Json → Except Json.Mismatch Binary64
  | .integer i => .ok (Binary64.ofInt i)
  | .number x => .ok x
  | j => .error (.invalidType j.found "f64")

def countOfJson : Json → Except Json.Mismatch Nat
  | .integer i => if 0 ≤ i then .ok i.toNat else .error (.invalidValue (.integer i) "usize")
  | j => .error (.invalidType j.found "usize")

def valueOfJson (j : Json) : Except Json.Mismatch Value :=
  match Value.ofJson? j with
  | some v => .ok v
  | none => .error Value.noShape

/-- A document that may be `null`. -/
def optional {α : Type} (read : Json → Except Json.Mismatch α) :
    Json → Except Json.Mismatch (Option α)
  | .null => .ok none
  | j => (read j).map some

/-- Read one member of the document of a property. -/
def readMember (p : Property) (member : String × Json) : Except Json.Mismatch Property :=
  let (name, j) := member
  if name = "type" then
    (optional textOfJson j).map fun t => { p with typeName := t.getD "string" }
  else if name = "required" then (boolOfJson j).map fun b => { p with required := b }
  else if name = "default" then (optional valueOfJson j).map fun v => { p with default := v }
  else if name = "min" then (optional valueOfJson j).map fun v => { p with min := v }
  else if name = "max" then (optional valueOfJson j).map fun v => { p with max := v }
  else if name = "step" then (optional numberOfJson j).map fun x => { p with step := x }
  else if name = "minLength" then (optional countOfJson j).map fun n => { p with minLength := n }
  else if name = "maxLength" then (optional countOfJson j).map fun n => { p with maxLength := n }
  else if name = "pattern" then (optional textOfJson j).map fun s => { p with pattern := s }
  else if name = "trim" then (boolOfJson j).map fun b => { p with trim := b }
  else if name = "reduceSpace" then (boolOfJson j).map fun b => { p with reduceSpace := b }
  else if name = "upperCase" then (boolOfJson j).map fun b => { p with upperCase := b }
  else if name = "lowerCase" then (boolOfJson j).map fun b => { p with lowerCase := b }
  else .ok p

/-- Take a member out of an object; the last member takes its place. -/
def takeOut (name : String) (members : List (String × Json)) :
    Option Json × List (String × Json) :=
  match members.findIdx? (·.1 == name), members.getLast? with
  | some i, some last => (members.lookup name, (members.set i last).dropLast)
  | _, _ => (none, members)

/-- The definition that the members of a document stand for. -/
def ofMembers (members : List (String × Json)) : Except Json.Mismatch Property := do
  let (index, rest) := takeOut "index" members
  let p ← rest.foldlM readMember {}
  let index := index.bind fun j => if j.isNull then none else some (IndexSpec.ofInlineJson j)
  return { p with index }

end EntityStore.Property
