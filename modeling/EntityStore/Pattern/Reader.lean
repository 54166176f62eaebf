import EntityStore.Number.Power
import EntityStore.Pattern.Bracket

set_option autoImplicit false

/-! # Reading patterns

A pattern is read step by step: each step takes one part (a character, a class, an anchor, a
parenthesis, a repetition) off the text and adds it to the group under way. The groups around it
wait on a stack.

Patterns are bounded in two ways: parts may be nested 250 deep, and the automaton of a pattern may
have 327680 states, which bounds the counts of repetitions. No automaton is built here: its states
are estimated part by part. -/

namespace EntityStore.Pattern

/-- How deep parts may be nested. -/
def maxNesting : Nat := 250

/-- How many states the automaton of a pattern may have. -/
def maxStates : Nat := 10 * 2 ^ 20 / 32

/-! ## Parts -/

/-- A part of a pattern that has been read. -/
structure Part where
  expr : Expr
  depth : Nat := 0
  /-- An estimate of the states that its automaton has. -/
  states : Nat := 1
  /-- Whether it may be repeated; a change of flags may not. -/
  repeatable : Bool := true

/-- The part of one character of a class. -/
def Part.ofClass (c : CharClass) (depth : Nat) : Part :=
  { expr := .char c, depth, states := c.weight / 4 + 1 }

/-- The part of a condition on its place. -/
def Part.ofAnchor (a : Anchor) : Part := { expr := .anchor a }

/-- Parts one after the other; the last one comes first in the list. -/
def Part.sequence : List Part → Part
  | [] => { expr := .empty }
  | [p] => p
  | p :: parts => parts.foldl
    (fun after p => { expr := .seq p.expr after.expr, depth := max after.depth (p.depth + 1),
                      states := after.states + p.states })
    { expr := p.expr, depth := p.depth + 1, states := p.states }

/-- Either of the parts. -/
def Part.choice : List Part → Part
  | [] => { expr := .empty }
  | [p] => p
  | p :: parts => parts.foldl
    (fun after p => { expr := .alt p.expr after.expr, depth := max after.depth (p.depth + 1),
                      states := after.states + p.states + 1 })
    { expr := p.expr, depth := p.depth + 1, states := p.states }

/-- A part repeated from `least` times up to `most` times. -/
def Part.repeated (p : Part) (least : Nat) (most : Option Nat) : Part :=
  { expr := .iter p.expr least most
    depth := p.depth + 1
    states :=
      if p.expr.takesNothing then p.states
      else match most with
        | none => max least 1 * p.states + 1
        | some most => least * p.states + (most - least) * (p.states + 1) }

/-- A part in parentheses; remembering what it takes needs states of its own. -/
def Part.grouped (p : Part) (remembered : Bool) : Part :=
  { expr := p.expr, depth := p.depth + 1, states := p.states + if remembered then 2 else 0 }

/-! ## Groups under way -/

structure Group where
  /-- The parts of the branch under way, last first. -/
  parts : List Part := []
  /-- The branches before, last first. -/
  branches : List Part := []
  /-- The flags in force outside of the group. -/
  outside : Flags := {}
  remembered : Bool := false

/-- All that has been read of a group. -/
def Group.total (g : Group) : Part := Part.choice (Part.sequence g.parts :: g.branches)

/-- A pattern under way. -/
structure State where
  group : Group := {}
  /-- The groups around it, from the inside out. -/
  outer : List Group := []
  flags : Flags := {}
  names : List String := []
  rest : List Char

def State.push (st : State) (p : Part) (rest : List Char) : State :=
  { st with group := { st.group with parts := p :: st.group.parts }, rest }

def State.openGroup (st : State) (remembered : Bool) (flags : Flags) (rest : List Char) : State :=
  { st with group := { outside := st.flags, remembered }, outer := st.group :: st.outer, flags,
            rest }

def State.closeGroup? (st : State) (rest : List Char) : Option State :=
  match st.outer with
  | [] => none
  | g :: outer =>
    some ({ st with group := g, outer, flags := st.group.outside }.push
      (st.group.total.grouped st.group.remembered) rest)

/-! ## Parentheses -/

/-- Read flags up to the mark that ends them, `:` or `)`. `seen` holds the letters and the minus
read so far, `dangling` tells whether the minus was last. -/
def readFlags (seen : List Char) (dangling : Bool) (f : Flags) :
    List Char → Option (Flags × Bool × Char × List Char)
  | [] => none
  | c :: rest =>
    if c = ':' ∨ c = ')' then if dangling then none else some (f, seen.isEmpty, c, rest)
    else if seen.contains c then none
    else if c = '-' then readFlags (c :: seen) true f rest
    else match f.set? (!seen.contains '-') c with
      | some f => readFlags (c :: seen) false f rest
      | none => none

/-- Whether a text can be the name of a group. -/
def isGroupName (name : List Char) : Bool :=
  let letter (c : Char) : Bool := ((CharClass.property? "alpha").getD .none).contains c
  let number (c : Char) : Bool := ((CharClass.category? "n").getD .none).contains c
  match name with
  | [] => false
  | c :: rest => (c == '_' || letter c) &&
    rest.all fun c => c == '_' || c == '.' || c == '[' || c == ']' || letter c || number c

/-- Read the name of a group after its opening mark, and start the group. -/
def State.openNamed? (st : State) (s : List Char) : Option State :=
  let name := s.takeWhile (· != '>')
  match s.dropWhile (· != '>') with
  | '>' :: rest =>
    let text := String.ofList name
    if isGroupName name && !st.names.contains text then
      some ({ st with names := text :: st.names }.openGroup true st.flags rest)
    else none
  | _ => none

/-- Read what follows an opening parenthesis. Conditions on what stands before or after a place are
not supported. -/
def State.openParenthesis? (st : State) (s : List Char) : Option State :=
  match st.flags.skip s with
  | '?' :: '=' :: _ | '?' :: '!' :: _ | '?' :: '<' :: '=' :: _ | '?' :: '<' :: '!' :: _ => none
  | '?' :: 'P' :: '<' :: rest => st.openNamed? rest
  | '?' :: '<' :: rest => st.openNamed? rest
  | '?' :: rest =>
    match readFlags [] false st.flags rest with
    | none => none
    | some (f, noFlags, closing, rest) =>
      if closing = ':' then some (st.openGroup false f rest)
      else if noFlags then none
      else some ({ st with flags := f }.push { expr := .empty, repeatable := false } rest)
  | rest => some (st.openGroup true st.flags rest)

/-! ## Repetitions -/

/-- Read a number with blanks around it, below 2³². -/
def readCount (f : Flags) (s : List Char) : Option (Option Nat × List Char) :=
  let s := s.dropWhile Text.isBlank
  let (digits, rest) := f.takeWhile Char.isDigit s.length s
  let rest := f.skip (rest.dropWhile Text.isBlank)
  if digits.isEmpty then some (none, rest)
  else
    let n := digits.foldl (fun n c => n * 10 + (c.toNat - 0x30)) 0
    if n < 2 ^ 32 then some (some n, rest) else none

/-- Read the counts of a repetition after the opening brace. -/
def readCounts (f : Flags) (s : List Char) : Option (Nat × Option Nat × List Char) := do
  let (first, rest) ← readCount f (f.skip s)
  let least ← first
  match rest with
  | '\x7d' :: rest => return (least, some least, rest)
  | ',' :: rest =>
    match f.skip rest with
    | '\x7d' :: rest => return (least, none, rest)
    | rest =>
      let (second, rest) ← readCount f rest
      let most ← second
      match rest with
      | '\x7d' :: rest => if least ≤ most then return (least, some most, rest) else none
      | _ => none
  | _ => none

/-- Repeat the last part. A question mark after it only says which match is preferred. -/
def State.repeat? (st : State) (least : Nat) (most : Option Nat) (rest : List Char) :
    Option State :=
  match st.group.parts with
  | [] => none
  | p :: parts =>
    if !p.repeatable then none
    else
      let rest := match rest with
        | '?' :: rest => rest
        | _ => rest
      some { st with group := { st.group with parts := p.repeated least most :: parts }, rest }

/-! ## Steps -/

def State.pushChar (st : State) (c : Char) (rest : List Char) : State :=
  st.push (Part.ofClass (st.flags.fold (.single c)) 0) rest

/-- The class of the dot, which only patterns on characters have. -/
def Flags.dot? (f : Flags) : Option CharClass :=
  if !f.unicode then none
  else if f.dotAll then some .all
  else if f.anyLine then some (.complement (.union (.single '\r') (.single '\n')))
  else some (.complement (.single '\n'))

/-- Take one part off the text. -/
def State.step? (st : State) (c : Char) (rest : List Char) : Option State :=
  let f := st.flags
  if c = '(' then st.openParenthesis? rest
  else if c = ')' then st.closeGroup? rest
  else if c = '|' then
    some { st with
      group := { st.group with parts := [],
                               branches := Part.sequence st.group.parts :: st.group.branches }
      rest }
  else if c = '[' then do
    let (n, rest) ← readBracket f rest
    return st.push (Part.ofClass n.cls n.depth) rest
  else if c = '?' then st.repeat? 0 (some 1) rest
  else if c = '*' then st.repeat? 0 none rest
  else if c = '+' then st.repeat? 1 none rest
  else if c = '\x7b' then do
    let (least, most, rest) ← readCounts f rest
    st.repeat? least most (f.skip rest)
  else if c = '.' then do return st.push (Part.ofClass (← f.dot?) 0) rest
  else if c = '^' then
    some (st.push (.ofAnchor (if !f.multiLine then .textStart
      else if f.anyLine then .anyLineStart else .lineStart)) rest)
  else if c = '$' then
    some (st.push (.ofAnchor (if !f.multiLine then .textEnd
      else if f.anyLine then .anyLineEnd else .lineEnd)) rest)
  else if c = '\\' then
    match readEscape f rest with
    | some (.char d byte, rest) =>
      if byte && !f.unicode && 0x80 ≤ d.toNat then none else some (st.pushChar d rest)
    | some (.cls cls, rest) => some (st.push (Part.ofClass cls 0) rest)
    | some (.anchor a, rest) => some (st.push (.ofAnchor a) rest)
    | none => none
  else some (st.pushChar c rest)

/-- Take parts off the text up to its end; `fuel` bounds their number. -/
def State.run? : Nat → State → Option State
  | 0, _ => none
  | fuel + 1, st =>
    match st.flags.skip st.rest with
    | [] => some st
    | c :: rest => (st.step? c rest).bind (State.run? fuel)

/-- Read a pattern. -/
def read? (s : List Char) : Option Expr := do
  let st ← State.run? (s.length + 1) { rest := s }
  if !st.outer.isEmpty then none
  let p := st.group.total
  if maxNesting < p.depth ∨ maxStates < p.states then none
  return p.expr

end EntityStore.Pattern
