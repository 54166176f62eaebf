set_option autoImplicit false

/-! # Blank characters: trimming, words, and runs of space

A character is blank when it has the Unicode property `White_Space`: 25 characters, among them the
no-break spaces and the line and paragraph separators, but not the zero-width ones. Trimming and
the joining of words follow this property, not the ASCII one. -/

namespace EntityStore.Text

/-- Whether a character has the property `White_Space`. -/
def isBlank (c : Char) : Bool :=
  let n := c.toNat
  (9 ≤ n && n ≤ 13) || n == 0x20 || n == 0x85 || n == 0xA0 || n == 0x1680 ||
    (0x2000 ≤ n && n ≤ 0x200A) || n == 0x2028 || n == 0x2029 || n == 0x202F || n == 0x205F ||
    n == 0x3000

example : isBlank ' ' = true ∧ isBlank '\u00a0' = true ∧ isBlank '\u200b' = false := by decide

def trimFront (s : List Char) : List Char := s.dropWhile isBlank

/-- Drop blank characters at both ends. -/
def trimList (s : List Char) : List Char := (trimFront (trimFront s).reverse).reverse

/-- Drop blank characters at both ends of a text. -/
def trim (s : String) : String := String.ofList (trimList s.toList)

/-- Write one space for each maximal run of blank characters; `inside` tells whether the
character before was blank. -/
def collapseList (inside : Bool) : List Char → List Char
  | [] => []
  | c :: rest =>
    if isBlank c then
      if inside then collapseList true rest else ' ' :: collapseList true rest
    else c :: collapseList false rest

/-- Write one space for each maximal run of blank characters of a text. -/
def collapse (s : String) : String := String.ofList (collapseList false s.toList)

/-- The maximal runs of characters that are not blank, in order; `word` is the run under way,
last character first. -/
def wordsFrom (word : List Char) : List Char → List (List Char)
  | [] => if word.isEmpty then [] else [word.reverse]
  | c :: rest =>
    if isBlank c then
      if word.isEmpty then wordsFrom [] rest else word.reverse :: wordsFrom [] rest
    else wordsFrom (c :: word) rest

/-- The maximal runs of characters that are not blank, in order. -/
def words (s : List Char) : List (List Char) := wordsFrom [] s

/-- Write the letters `A` to `Z` of a text in lower case. -/
def lowerAscii (s : String) : String := String.ofList (s.toList.map Char.toLower)

/-- Whether two texts are equal up to the case of the letters `a` to `z`. -/
def sameIgnoringCase (a b : String) : Bool := lowerAscii a == lowerAscii b

/-- Trim a text and write its letters `A` to `Z` in lower case: how names of operations and
policies are read. -/
def fold (s : String) : String := lowerAscii (trim s)

example : fold " NotEq\t" = "noteq" := by decide

end EntityStore.Text
