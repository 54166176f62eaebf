import EntityStore.Pattern.CharClass

set_option autoImplicit false

/-! # Pattern expressions and their matching

An expression describes texts; an anchor in it describes the place between two characters and takes
none. Matching goes through the text once and keeps the set of expressions that describe what may
follow. Two functions carry it: `nullable` tells whether an expression can match nothing at a
place, and `derivatives` gives what is left of it after one character. -/

namespace EntityStore.Pattern

/-- The characters before and after a place in a text. -/
structure Place where
  /-- The character before, none at the start. -/
  before : Option Char
  /-- The character after, none at the end. -/
  after : Option Char

/-- What an anchor asks of the words around its place. -/
inductive WordEdge
  | any
  | none
  | start
  | stop
  /-- No word goes on from before. -/
  | startHalf
  /-- No word goes on after. -/
  | stopHalf
deriving DecidableEq

/-- A condition on a place. -/
inductive Anchor
  | textStart
  | textEnd
  /-- The start of a line, after a line feed. -/
  | lineStart
  /-- The end of a line, before a line feed. -/
  | lineEnd
  /-- The start of a line, after a carriage return, a line feed or both. -/
  | anyLineStart
  /-- The end of a line, before a carriage return, a line feed or both. -/
  | anyLineEnd
  | word (unicode : Bool) (edge : WordEdge)
deriving DecidableEq

/-- Whether an anchor holds at a place. -/
def Anchor.holds (p : Place) : Anchor → Bool
  | .textStart => p.before.isNone
  | .textEnd => p.after.isNone
  | .lineStart => p.before.isNone || p.before == some '\n'
  | .lineEnd => p.after.isNone || p.after == some '\n'
  | .anyLineStart => p.before.isNone || p.before == some '\n' ||
      (p.before == some '\r' && p.after != some '\n')
  | .anyLineEnd => p.after.isNone || p.after == some '\r' ||
      (p.after == some '\n' && p.before != some '\r')
  | .word unicode edge =>
    let inside := (CharClass.wordChars unicode).contains
    let before := p.before.any inside
    let after := p.after.any inside
    match edge with
    | .any => before != after
    | .none => before == after
    | .start => !before && after
    | .stop => before && !after
    | .startHalf => !before
    | .stopHalf => !after

inductive Expr
  | empty
  | char (c : CharClass)
  | anchor (a : Anchor)
  | seq (a b : Expr)
  | alt (a b : Expr)
  /-- An expression again and again, from `least` times up to `most` times. -/
  | iter (e : Expr) (least : Nat) (most : Option Nat)
deriving DecidableEq

namespace Expr

/-- Whether an expression can match nothing at a place. -/
def nullable (p : Place) : Expr → Bool
  | .empty => true
  | .char _ => false
  | .anchor a => a.holds p
  | .seq a b => a.nullable p && b.nullable p
  | .alt a b => a.nullable p || b.nullable p
  | .iter e least _ => least == 0 || e.nullable p

/-- One expression after another, without parts that are nothing. -/
def andThen : Expr → Expr → Expr
  | .empty, b => b
  | a, b => .seq a b

/-- Whether an expression never takes a character. -/
def takesNothing : Expr → Bool
  | .empty | .anchor _ => true
  | .char _ => false
  | .seq a b | .alt a b => a.takesNothing && b.takesNothing
  | .iter e _ most => most == some 0 || e.takesNothing

/-- What may be left of an expression at a place after the character `c` that follows it. -/
def derivatives (p : Place) (c : Char) : Expr → List Expr
  | .empty => []
  | .char s => if s.contains c then [.empty] else []
  | .anchor _ => []
  | .seq a b =>
    (a.derivatives p c).map (·.andThen b) ++ if a.nullable p then b.derivatives p c else []
  | .alt a b => a.derivatives p c ++ b.derivatives p c
  | .iter e least most =>
    if most = some 0 then []
    else
      let again := Expr.iter e (if e.nullable p then 0 else least - 1) (most.map (· - 1))
      (e.derivatives p c).map (·.andThen again)

/-- Whether one of the expressions `live` matches a start of the text after `before`, or `e`
matches somewhere in it. -/
def searchFrom (e : Expr) : Option Char → List Expr → List Char → Bool
  | before, live, [] =>
    let p : Place := ⟨before, none⟩
    (e :: live).any (·.nullable p)
  | before, live, c :: rest =>
    let p : Place := ⟨before, some c⟩
    (e :: live).any (·.nullable p) ||
      searchFrom e (some c) ((e :: live).flatMap (·.derivatives p c)).eraseDups rest

/-- Whether an expression matches somewhere in a text. -/
def search (e : Expr) (s : List Char) : Bool := e.searchFrom none [] s

example : (seq (char (.single 'a')) (iter (char (.single 'b')) 2 none)).search ['a', 'b', 'b'] =
    true := by decide +kernel

end Expr

end EntityStore.Pattern
