import EntityStore.Uuid

set_option autoImplicit false

/-! # Keys of items

The records of a model are stored under keys that differ in the identity of the item only. A
template has the mark `%u` in place of the identity. -/

namespace EntityStore

/-- A key with marks in place of an identity. -/
structure KeyTemplate where
  /-- The text with the marks. -/
  text : String
deriving DecidableEq

namespace KeyTemplate

/-- The mark in place of an identity. -/
def mark : List Char := ['%', 'u']

/-- The template for the items of a model with a name, below a base. -/
def forModel (base name : String) : KeyTemplate := ⟨s!"{base}/{name}/items/%u"⟩

/-- Put a text in the place of each mark. -/
def fillList (id : List Char) : List Char → List Char
  | [] => []
  | '%' :: 'u' :: rest => id ++ fillList id rest
  | c :: rest => c :: fillList id rest

/-- What stands before and after the first mark. -/
def splitList : List Char → Option (List Char × List Char)
  | [] => none
  | '%' :: 'u' :: rest => some ([], rest)
  | c :: rest => (splitList rest).map fun (a, b) => (c :: a, b)

/-- The text without an end, if it has it. -/
def dropEnd? (ending s : List Char) : Option (List Char) :=
  if ending.isSuffixOf s then some (s.take (s.length - ending.length)) else none

/-- The text without a start, if it has it. -/
def dropStart? (start s : List Char) : Option (List Char) :=
  if start.isPrefixOf s then some (s.drop start.length) else none

/-- The key of the record of an item. -/
def key (t : KeyTemplate) (id : Uuid) : String :=
  String.ofList (fillList id.toText.toList t.text.toList)

/-- The key below which the records of all items are. -/
def base (t : KeyTemplate) : String :=
  match dropEnd? mark t.text.toList with
  | some start => String.ofList (start.reverse.dropWhile (· = '/')).reverse
  | none => t.text

/-- The item whose record has a key. -/
def id? (t : KeyTemplate) (key : String) : Option Uuid := do
  let (start, ending) ← splitList t.text.toList
  let rest ← dropStart? start key.toList
  let id ← dropEnd? ending rest
  Uuid.ofText? (String.ofList id)

end KeyTemplate

end EntityStore
