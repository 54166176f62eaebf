set_option autoImplicit false

/-! # Sets of characters given by ranges of code points

The classes that the Unicode standard defines (which characters can be printed, which have a
case, …) are data: long lists of closed ranges of code points. A `CodeSet` holds such a list, and
`CodeSet.ofText` reads it from its written form, so that a table in this library is one text: the
ranges in hexadecimal, `a-f` for a range and `a` for a single code point, separated by spaces. -/

namespace EntityStore

/-- A set of characters as closed ranges of code points. -/
structure CodeSet where
  /-- First and last code point of each range. -/
  ranges : List (Nat × Nat)
deriving DecidableEq, Repr

namespace CodeSet

/-- Whether a code point lies in one of the ranges. -/
def containsCode (s : CodeSet) (n : Nat) : Bool :=
  s.ranges.any fun r => r.1 ≤ n && n ≤ r.2

def contains (s : CodeSet) (c : Char) : Bool := s.containsCode c.toNat

def union (s t : CodeSet) : CodeSet := ⟨s.ranges ++ t.ranges⟩

/-! ## The written form -/

/-- The value of a lower-case or upper-case hexadecimal digit. -/
def hexDigit? (c : Char) : Option Nat :=
  if '0' ≤ c ∧ c ≤ '9' then some (c.toNat - 0x30)
  else if 'a' ≤ c ∧ c ≤ 'f' then some (c.toNat - 0x57)
  else if 'A' ≤ c ∧ c ≤ 'F' then some (c.toNat - 0x37)
  else none

/-- One step of reading the written form: the ranges read so far, newest first, the first end of
the range under way if its hyphen has been read, and the number under way. -/
def readStep (state : List (Nat × Nat) × Option Nat × Option Nat) (c : Char) :
    List (Nat × Nat) × Option Nat × Option Nat :=
  let (done, start, number) := state
  match hexDigit? c with
  | some d => (done, start, some (number.getD 0 * 16 + d))
  | none =>
    if c = '-' then (done, number, none)
    else match number with
      | none => (done, none, none)
      | some n => ((start.getD n, n) :: done, none, none)

/-- Read ranges from their written form. -/
def ofText (text : String) : CodeSet :=
  ⟨(readStep (text.toList.foldl readStep ([], none, none)) ' ').1.reverse⟩

end CodeSet

end EntityStore
