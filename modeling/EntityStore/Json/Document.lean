import EntityStore.Number.Shortest
import EntityStore.Text.Quoted
import EntityStore.Uuid

set_option autoImplicit false

/-! # JSON documents and their compact text

A document is a tree. Whole numbers that fit 64 bits (with or without a sign) are kept apart from
other numbers, which are finite and of double precision. The members of an object are kept in their
order, and a name may occur more than once; `Json.distinct` keeps the last value of each name, in
the place of its first. -/

namespace EntityStore

inductive Json
  | null
  | bool (b : Bool)
  /-- A whole number, from -2⁶³ up to 2⁶⁴. -/
  | integer (i : Int)
  | number (x : Binary64)
  | string (s : String)
  | array (items : List Json)
  | object (members : List (String × Json))

namespace Json

/-! ## Compact text -/

/-- How one character stands in a quoted text. -/
def escapeChar (c : Char) : List Char :=
  if c = '\x22' then ['\\', '\x22']
  else if c = '\\' then ['\\', '\\']
  else if c = '\x08' then ['\\', 'b']
  else if c = '\x0c' then ['\\', 'f']
  else if c = '\n' then ['\\', 'n']
  else if c = '\r' then ['\\', 'r']
  else if c = '\t' then ['\\', 't']
  else if c.toNat < 0x20 then ['\\', 'u', '0', '0'] ++ Uuid.hexText 2 c.toNat
  else [c]

/-- A text between quotation marks. -/
def quoteList (s : String) : List Char :=
  '\x22' :: s.toList.flatMap escapeChar ++ ['\x22']

/-- The text of a whole number. -/
def integerList (i : Int) : List Char :=
  if i < 0 then '-' :: Nat.toDigits 10 i.natAbs else Nat.toDigits 10 i.natAbs

mutual

/-- The compact text of a document, in front of a text. -/
def write : Json → List Char → List Char
  | .null, k => 'n' :: 'u' :: 'l' :: 'l' :: k
  | .bool true, k => 't' :: 'r' :: 'u' :: 'e' :: k
  | .bool false, k => 'f' :: 'a' :: 'l' :: 's' :: 'e' :: k
  | .integer i, k => integerList i ++ k
  | .number x, k => (Binary64.Layout.document.write x).toList ++ k
  | .string s, k => quoteList s ++ k
  | .array [], k => '[' :: ']' :: k
  | .array (item :: items), k => '[' :: write item (writeItems items (']' :: k))
  | .object [], k => '\x7b' :: '\x7d' :: k
  | .object ((name, value) :: members), k =>
    '\x7b' :: (quoteList name ++ ':' :: write value (writeMembers members ('\x7d' :: k)))

/-- The compact text of the further items of a sequence. -/
def writeItems : List Json → List Char → List Char
  | [], k => k
  | item :: items, k => ',' :: write item (writeItems items k)

/-- The compact text of the further members of an object. -/
def writeMembers : List (String × Json) → List Char → List Char
  | [], k => k
  | (name, value) :: members, k =>
    ',' :: (quoteList name ++ ':' :: write value (writeMembers members k))

end

def compact (j : Json) : String := String.ofList (j.write [])

/-! ## Names that occur once -/

/-- Give a name a value: in its place if the name occurs, else at the end. -/
def setMember (name : String) (value : Json) : List (String × Json) → List (String × Json)
  | [] => [(name, value)]
  | (n, v) :: rest =>
    if n = name then (n, value) :: rest else (n, v) :: setMember name value rest

mutual

/-- The document in which each name of an object occurs once: at its first place, with its last
value. -/
def distinct : Json → Json
  | .array items => .array (distinctItems items)
  | .object members => .object (distinctMembers [] members)
  | j => j

/-- `distinct` on the items of a sequence. -/
def distinctItems : List Json → List Json
  | [] => []
  | item :: items => distinct item :: distinctItems items

/-- `distinct` on the members of an object, after the members `done`. -/
def distinctMembers (done : List (String × Json)) :
    List (String × Json) → List (String × Json)
  | [] => done
  | (name, value) :: members => distinctMembers (setMember name (distinct value) done) members

end

def isNull : Json → Bool
  | .null => true
  | _ => false

end Json

end EntityStore
