set_option autoImplicit false

/-! # Keys of records

A record is stored under a key, a text of segments with slashes between them. Segments must not be
empty and must not be `.` or `..`. A key lies below another one if its segments start with the
other's. -/

namespace EntityStore.Key

/-- The parts of a text between slashes. -/
def splitSlash : List Char → List (List Char)
  | [] => [[]]
  | c :: rest =>
    if c = '/' then [] :: splitSlash rest
    else match splitSlash rest with
      | [] => [[c]]
      | part :: parts => (c :: part) :: parts

/-- The segments of a key. -/
def segments (key : String) : List String := (splitSlash key.toList).map String.ofList

/-- The key with given segments. -/
def ofSegments (segments : List String) : String := "/".intercalate segments

/-- Whether a segment may occur in a key. -/
def isSegment (s : String) : Bool := !s.isEmpty && s != "." && s != ".."

/-- Whether a text is a key. -/
def isValid (key : String) : Bool := !key.isEmpty && (segments key).all isSegment

/-- Whether a key equals another one or continues it after a slash. -/
def isBelow (key base : String) : Bool :=
  key == base || (base.toList.isPrefixOf key.toList && key.toList[base.toList.length]? == some '/')

example : isValid "a/.../b" = true ∧ isValid "a//b" = false ∧ isValid "../a" = false := by decide
example : isBelow "a/b" "a" = true ∧ isBelow "ab" "a" = false := by decide

end EntityStore.Key
