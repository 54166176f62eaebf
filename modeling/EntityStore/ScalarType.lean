import EntityStore.Text.Blank

set_option autoImplicit false

/-! # The types of properties

A property has one of six types, which are found by their names or aliases in any case. A seventh,
`any`, takes every value as it is; it stands where no type is known, and it has no name by which it
could be asked for. -/

namespace EntityStore

inductive ScalarType
  | string
  /-- Whole numbers of 64 bits. -/
  | integer
  /-- Finite numbers of double precision. -/
  | number
  | boolean
  /-- Points in time, to the millisecond. -/
  | date
  | uuid
  | any
deriving DecidableEq, Repr

namespace ScalarType

/-- The types that have names, in the order in which names are looked up. -/
def all : List ScalarType := [.string, .integer, .number, .boolean, .date, .uuid]

def name : ScalarType → String
  | .string => "string"
  | .integer => "integer"
  | .number => "number"
  | .boolean => "boolean"
  | .date => "date"
  | .uuid => "uuid"
  | .any => "any"

def aliases : ScalarType → List String
  | .string => ["text"]
  | .integer => ["int"]
  | .number => ["float", "decimal", "double"]
  | .boolean => ["bool"]
  | .date => ["datetime", "timestamp"]
  | .uuid => ["key", "foreign"]
  | .any => []

/-- Whether the order of a type is meaningful. -/
def sortable (_ : ScalarType) : Bool := true

/-- Whether stored values of a type differ from the values they stand for. -/
def restores : ScalarType → Bool
  | .number | .date | .uuid => true
  | .string | .integer | .boolean | .any => false

/-- The type with a name or alias. -/
def ofName? (name : String) : Option ScalarType :=
  let wanted := Text.trim name
  all.find? fun t => (t.name :: t.aliases).any fun n => Text.sameIgnoringCase n wanted

theorem ofName?_name {t : ScalarType} (h : t ∈ all) : ofName? t.name = some t := by
  revert t
  decide +kernel

end ScalarType

end EntityStore
