import EntityStore.Pattern.CategoryTable
import EntityStore.Pattern.FoldTable
import EntityStore.Pattern.PropertyTable
import EntityStore.Pattern.ScriptTable
import EntityStore.Text.Blank

set_option autoImplicit false

/-! # Classes of characters

A class is built from sets of code points by the operations that patterns offer. Whether it
contains a character is computed from the parts (`CharClass.contains`); no operation is carried out
on the lists of ranges.

Classes of the Unicode standard are found by their names (`CharClass.named?`), which may be written
in any case, with blanks, hyphens and underscores anywhere, and with `is` in front. -/

namespace EntityStore

/-! ## Case folding -/

/-- What case folding makes of a code point. -/
def foldCode (n : Nat) : Nat := (foldRuns.findSome? (·.imageOf? n)).getD n

/-- The code point that a run maps to `n`, if there is one. -/
def Text.CaseRun.source? (run : Text.CaseRun) (n : Nat) : Option Nat :=
  if run.image ≤ n ∧ n - run.image ≤ run.last - run.first ∧ (n - run.image) % run.stride = 0 then
    some (run.first + (n - run.image))
  else none

/-- The characters that differ from a character in case only, itself among them. -/
def caseVariants (c : Char) : List Char :=
  let f := foldCode c.toNat
  c :: Char.ofNat f :: (foldRuns.filterMap (·.source? f)).map Char.ofNat

/-- The character and, for a letter `A` to `Z` or `a` to `z`, the same in the other case. -/
def asciiCaseVariants (c : Char) : List Char := [c, c.toLower, c.toUpper]

example : 'ſ' ∈ caseVariants 'S' ∧ 's' ∈ caseVariants 'S' := by decide +kernel

/-! ## Classes -/

/-- A class of characters. -/
inductive CharClass
  | set (s : CodeSet)
  | union (a b : CharClass)
  | inter (a b : CharClass)
  | minus (a b : CharClass)
  /-- The characters of exactly one of the classes. -/
  | exclusive (a b : CharClass)
  | complement (a : CharClass)
  /-- The characters of which some variant in case is in the class. -/
  | folded (a : CharClass)
  /-- The same for the letters `A` to `Z` only. -/
  | asciiFolded (a : CharClass)
deriving DecidableEq

namespace CharClass

def contains : CharClass → Char → Bool
  | .set s, c => s.contains c
  | .union a b, c => a.contains c || b.contains c
  | .inter a b, c => a.contains c && b.contains c
  | .minus a b, c => a.contains c && !b.contains c
  | .exclusive a b, c => a.contains c != b.contains c
  | .complement a, c => !a.contains c
  | .folded a, c => (caseVariants c).any fun d => a.contains d
  | .asciiFolded a, c => (asciiCaseVariants c).any fun d => a.contains d

/-- About how many states an automaton needs for a class, in quarters: few for ASCII, more for
characters of several bytes. -/
def weight : CharClass → Nat
  | .set s => (s.ranges.map fun r => if r.2 < 0x80 then 1 else 8).sum
  | .union a b | .inter a b | .minus a b | .exclusive a b => a.weight + b.weight
  | .complement a => a.weight + 40
  | .folded a | .asciiFolded a => a.weight

def none : CharClass := .set ⟨[]⟩

def single (c : Char) : CharClass := .set ⟨[(c.toNat, c.toNat)]⟩

/-- The class of the characters from one to another. -/
def range (first last : Char) : CharClass := .set ⟨[(first.toNat, last.toNat)]⟩

def all : CharClass := .set ⟨[(0, 0x10FFFF)]⟩

/-- The class or its complement. -/
def negateIf (negated : Bool) (a : CharClass) : CharClass := if negated then .complement a else a

/-! ## Classes of ASCII characters -/

/-- The classes of ASCII characters that have a name. -/
def asciiClasses : List (String × CodeSet) := [
  ("alnum", CodeSet.ofText "30-39 41-5a 61-7a"),
  ("alpha", CodeSet.ofText "41-5a 61-7a"),
  ("ascii", CodeSet.ofText "0-7f"),
  ("blank", CodeSet.ofText "9 20"),
  ("cntrl", CodeSet.ofText "0-1f 7f"),
  ("digit", CodeSet.ofText "30-39"),
  ("graph", CodeSet.ofText "21-7e"),
  ("lower", CodeSet.ofText "61-7a"),
  ("print", CodeSet.ofText "20-7e"),
  ("punct", CodeSet.ofText "21-2f 3a-40 5b-60 7b-7e"),
  ("space", CodeSet.ofText "9-d 20"),
  ("upper", CodeSet.ofText "41-5a"),
  ("word", CodeSet.ofText "30-39 41-5a 5f 61-7a"),
  ("xdigit", CodeSet.ofText "30-39 41-46 61-66")]

/-- The class of ASCII characters with a name. -/
def ascii? (name : String) : Option CharClass := (asciiClasses.lookup name).map .set

/-! ## Classes of Unicode -/

/-- The set of an entry of a table that has a name among its names. -/
def findSet? (table : List (List String × CodeSet)) (name : String) : Option CodeSet :=
  (table.find? fun e => e.1.contains name).map (·.2)

/-- The characters of a general category, or of a group of them. -/
def category? (name : String) : Option CharClass :=
  if name = "any" then some all
  else if name = "ascii" then some (range '\x00' '\x7f')
  else if name = "assigned" then
    (findSet? generalCategories "cn").map fun s => .complement (.set s)
  else match findSet? generalCategories name with
    | some s => some (.set s)
    | Option.none => (categoryGroups.find? fun e => e.1.contains name).map fun e =>
      .set (e.2.foldl (fun s part => s.union ((findSet? generalCategories part).getD ⟨[]⟩)) ⟨[]⟩)

/-- The characters of a script. -/
def script? (name : String) : Option CharClass := (findSet? scripts name).map .set

/-- The characters with a property. -/
def property? (name : String) : Option CharClass := (findSet? binaryProperties name).map .set

/-- A name without what does not matter in it: `is` in front, case, blanks, hyphens, underscores
and characters outside of ASCII. -/
def looseName (name : List Char) : String :=
  let named := (name.take 2).map Char.toLower = ['i', 's']
  let kept := ((if named then name.drop 2 else name).filter fun c =>
    c != ' ' && c != '_' && c != '-' && c.toNat < 0x80).map Char.toLower
  if named && kept = ['c'] then "isc" else String.ofList kept

/-- The class of a property, a general category or a script, the first that has the name. Three
short names of categories are also names of properties of another kind. -/
def named? (name : List Char) : Option CharClass :=
  let n := looseName name
  let property := if n = "cf" || n = "sc" || n = "lc" then Option.none else property? n
  property <|> category? n <|> script? n

/-- The class of the characters that have a value in a property. -/
def valued? (property value : List Char) : Option CharClass :=
  let p := looseName property
  if p = "gc" || p = "generalcategory" then category? (looseName value)
  else if p = "sc" || p = "script" then script? (looseName value)
  else Option.none

/-- The decimal digits of all scripts, or of ASCII. -/
def digits (unicode : Bool) : CharClass :=
  if unicode then (category? "nd").getD none else (ascii? "digit").getD none

/-- The blank characters, or those of ASCII. -/
def blanks (unicode : Bool) : CharClass :=
  if unicode then (property? "whitespace").getD none else (ascii? "space").getD none

/-- The characters of words, or those of ASCII. -/
def wordChars (unicode : Bool) : CharClass :=
  if unicode then .set wordCharacters else (ascii? "word").getD none

end CharClass

end EntityStore
