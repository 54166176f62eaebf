import EntityStore.Pattern.Reader

set_option autoImplicit false

/-! # Patterns

A pattern is a text in the usual notation of regular expressions, and what it means. It matches a
text if it describes some part of it. Patterns are regular: there is no look-around and no
reference back to what a group took.

Which texts are patterns is up to a `Pattern.Reader`, and definitions are checked with any of them.
The one at hand reads the usual notation, but not the classes by age, by script extensions and by
the breaks between characters, words and sentences, and its bound on the size of patterns is an
estimate. -/

namespace EntityStore

structure Pattern where
  source : String
  expr : Pattern.Expr
deriving DecidableEq

namespace Pattern

/-- A reader of patterns: which texts are patterns, and what they mean. -/
class Reader where
  read? : List Char → Option Expr

/-- The reader of the usual notation. -/
instance : Reader := ⟨read?⟩

/-- The pattern that a text describes, if it describes one. -/
def ofText? [Reader] (source : String) : Option Pattern :=
  (Reader.read? source.toList).map fun expr => ⟨source, expr⟩

/-- Whether a pattern describes some part of a text. -/
def isMatch (p : Pattern) (s : String) : Bool := p.expr.search s.toList

end Pattern

end EntityStore
