import EntityStore.ScalarType.Coerce

set_option autoImplicit false

/-! # The stored form of values

Stores know fewer kinds of values than items: dates become texts, and identifiers become bytes
where a store takes bytes as they are, and texts elsewhere. -/

namespace EntityStore.ScalarType

/-- The stored form of an identifier. -/
def storedIdentity (binary : Bool) (u : Uuid) : Value :=
  if binary then .binary u.toBytes else .string u.toText

/-- The stored form of a value of a type. -/
def serialize (t : ScalarType) (binary : Bool) (v : Value) : Value :=
  match t with
  | .string => match v with
    | .string s => .string s
    | _ => .null
  | .integer => match v with
    | .integer i => .integer i
    | _ => .null
  | .number => match v.number? with
    | some x => if x.isFinite then .number x else .null
    | none => .null
  | .boolean => match v with
    | .bool b => .bool b
    | _ => .null
  | .date => match v with
    | .date d => .string d.toText
    | _ => .null
  | .uuid => match v.identity? with
    | some u => storedIdentity binary u
    | none => .null
  | .any => if v.isInvalid then .null else v

/-- The value that a stored form of a type stands for. Values that were not stored are taken as
well. -/
def deserialize (t : ScalarType) (v : Value) : Value :=
  match t with
  | .number => match v with
    | .integer i => .number (Binary64.ofInt i.toInt)
    | v => v
  | .date => match v with
    | .string s => dateOfText s
    | .integer i => dateOr (Instant.ofMillis? i.toInt)
    | v => v
  | .uuid => toIdentity v
  | .string | .integer | .boolean | .any => v

theorem deserialize_of_not_restores {t : ScalarType} (h : t.restores = false) (v : Value) :
    t.deserialize v = v := by
  cases t <;> first | rfl | cases h

end EntityStore.ScalarType
