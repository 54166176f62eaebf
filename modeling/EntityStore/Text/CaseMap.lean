import EntityStore.Text.CaseTable
import EntityStore.Text.Cased

set_option autoImplicit false

/-! # Upper case and lower case of a text

Texts change case character by character, by the full mappings of the Unicode standard, so a text
may grow (`ß` becomes `SS`). One mapping looks at its surroundings: a capital sigma becomes the
final form `ς` where it ends a word. A word ends there when, past any case-ignorable characters, a
cased character stands before the sigma and none stands after it. -/

namespace EntityStore.Text

/-- The image of a code point under a table of single mappings and one of multiple mappings;
code points in neither stay as they are. -/
def mapCase (runs : List CaseRun) (special : List (Nat × List Nat)) (n : Nat) : List Nat :=
  match special.lookup n with
  | some image => image
  | none => [(runs.findSome? (·.imageOf? n)).getD n]

/-- The upper case of one character. -/
def upperChar (c : Char) : List Char :=
  (mapCase upperRuns upperSpecial c.toNat).map Char.ofNat

/-- The lower case of one character by itself. -/
def lowerChar (c : Char) : List Char :=
  (mapCase lowerRuns lowerSpecial c.toNat).map Char.ofNat

/-- Whether the first character that is not case-ignorable exists and is cased. -/
def casedPastIgnorable (s : List Char) : Bool :=
  match s.dropWhile caseIgnorable.contains with
  | [] => false
  | c :: _ => cased.contains c

/-- The lower case of a text that follows the characters `before`, nearest first. -/
def lowerFrom (before : List Char) : List Char → List Char
  | [] => []
  | c :: rest =>
    let image :=
      if c = 'Σ' then
        if casedPastIgnorable before && !casedPastIgnorable rest then ['ς'] else ['σ']
      else lowerChar c
    image ++ lowerFrom (c :: before) rest

def upper (s : String) : String := String.ofList (s.toList.flatMap upperChar)

def lower (s : String) : String := String.ofList (lowerFrom [] s.toList)

example : upperChar 'ß' = ['S', 'S'] := by decide +kernel
example : lowerChar 'İ' = ['i', '\u0307'] := by decide +kernel

end EntityStore.Text
