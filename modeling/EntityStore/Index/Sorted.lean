import EntityStore.ScalarType.Order

set_option autoImplicit false

/-! # Sorted indices

An index keeps one value for each item, sorted by the order of a type and then by identity. The
place of a new entry is found by halving, so it is right wherever the order is a linear one on the
values that are there. -/

namespace EntityStore

/-- The values of items, sorted. -/
structure SortedIndex where
  comparison : Comparison
  /-- The type whose order sorts the values. -/
  type : ScalarType
  /-- Values and identities in order. -/
  entries : List (Value × Uuid) := []

namespace SortedIndex

/-- The place found by halving: `base` and the `size` places from it on are left, and the entry at
a place lies before the one looked for if it passes `test`. -/
def halve {α : Type} (l : List α) (test : α → Bool) (base size : Nat) : Nat :=
  if h : size ≤ 1 then base + if l[base]?.any test then 1 else 0
  else
    let half := size / 2
    halve l test (if l[base + half]?.any test then base + half else base) (size - half)
termination_by size
decreasing_by omega

/-- How many entries at the front pass a test that, once failed, fails for all further ones. -/
def partitionPoint {α : Type} (l : List α) (test : α → Bool) : Nat := halve l test 0 l.length

/-- Whether an entry stands before the place of a value and an identity. -/
def isBefore (t : ScalarType) (v : Value) (id : Uuid) (e : Value × Uuid) : Bool :=
  match t.sort e.1 v with
  | .lt => true
  | .eq => e.2.number < id.number
  | .gt => false

def remove (index : SortedIndex) (id : Uuid) : SortedIndex :=
  { index with entries := index.entries.filter fun e => e.2 ≠ id }

/-- Keep a value for an item, in place of the one it had. -/
def insert (index : SortedIndex) (id : Uuid) (v : Value) : SortedIndex :=
  let rest := (index.remove id).entries
  let place := partitionPoint rest (isBefore index.type v id)
  { index with entries := rest.take place ++ (v, id) :: rest.drop place }

def clear (index : SortedIndex) : SortedIndex := { index with entries := [] }

/-- The items whose values pass the comparison, in the order of the index. -/
def find (index : SortedIndex) (operands : List Value) : List Uuid :=
  (index.entries.filter fun e => index.type.compare index.comparison e.1 operands).map (·.2)

def size (index : SortedIndex) : Nat := index.entries.length

def isEmpty (index : SortedIndex) : Bool := index.entries.isEmpty

end SortedIndex

end EntityStore
