import EntityStore.Text.Visible

set_option autoImplicit false

/-! # Quoted text in messages

Messages about a text show it between quotation marks. The marks, the backslash and the usual
control characters are escaped by a backslash, and every other character that cannot be seen
(no picture of its own, or one that extends its neighbour) by its number, as `\u` and the
hexadecimal code point in braces. -/

namespace EntityStore.Text

/-- The lower-case hexadecimal digits of a number, without leading zeros. -/
def hexDigits (n : Nat) : List Char := Nat.toDigits 16 n

/-- How one character is shown between quotation marks. -/
def escapeChar (c : Char) : List Char :=
  if c = '\x00' then ['\\', '0']
  else if c = '\t' then ['\\', 't']
  else if c = '\n' then ['\\', 'n']
  else if c = '\r' then ['\\', 'r']
  else if c = '\x22' then ['\\', '\x22']
  else if c = '\\' then ['\\', '\\']
  else if graphemeExtend.contains c || unprintable.contains c then
    ['\\', 'u', '\x7b'] ++ hexDigits c.toNat ++ ['\x7d']
  else [c]

/-- A text between quotation marks, with all that cannot be seen escaped. -/
def quote (s : String) : String :=
  String.ofList (['\x22'] ++ s.toList.flatMap escapeChar ++ ['\x22'])

end EntityStore.Text
