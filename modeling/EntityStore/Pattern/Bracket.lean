import EntityStore.Pattern.Expr

set_option autoImplicit false

/-! # Reading escapes and bracketed classes of patterns

Patterns are read from the front: a reader returns what it read and the rest of the text, or `none`
if the text is no pattern. What a character means depends on the flags in force at its place.

In verbose patterns blanks and comments (from `#` to the end of the line) may stand between any two
characters that do not belong together, also inside of brackets. -/

namespace EntityStore.Pattern

/-- Flags that change the meaning of what follows. -/
structure Flags where
  /-- `i`: the case of letters does not matter. -/
  ignoreCase : Bool := false
  /-- `m`: `^` and `$` match at lines. -/
  multiLine : Bool := false
  /-- `s`: the dot takes line feeds. -/
  dotAll : Bool := false
  /-- `u`: classes are those of Unicode. -/
  unicode : Bool := true
  /-- `R`: carriage returns end lines, too. -/
  anyLine : Bool := false
  /-- `x`: blanks and comments are passed over. -/
  verbose : Bool := false

/-- Put a flag on or off, by its letter. Which of two repetitions takes more characters (`U`) does
not matter to whether a text matches. -/
def Flags.set? (f : Flags) (on : Bool) (c : Char) : Option Flags :=
  if c = 'i' then some { f with ignoreCase := on }
  else if c = 'm' then some { f with multiLine := on }
  else if c = 's' then some { f with dotAll := on }
  else if c = 'u' then some { f with unicode := on }
  else if c = 'R' then some { f with anyLine := on }
  else if c = 'x' then some { f with verbose := on }
  else if c = 'U' then some f
  else none

/-- A class with the variants in case of its characters, if the flags ask for them. -/
def Flags.fold (f : Flags) (c : CharClass) : CharClass :=
  if !f.ignoreCase then c else if f.unicode then .folded c else .asciiFolded c

/-! ## Passing over blanks and comments -/

/-- Drop blanks and comments; `comment` tells whether a comment is under way. -/
def dropComments (comment : Bool) : List Char → List Char
  | [] => []
  | c :: rest =>
    if comment then dropComments (c != '\n') rest
    else if Text.isBlank c then dropComments false rest
    else if c = '#' then dropComments true rest
    else c :: rest

/-- Drop blanks and comments if the pattern is verbose. -/
def Flags.skip (f : Flags) (s : List Char) : List Char :=
  if f.verbose then dropComments false s else s

/-- Take at most `count` characters that pass a test, with what may stand between them. -/
def Flags.takeWhile (f : Flags) (test : Char → Bool) : Nat → List Char → List Char × List Char
  | 0, s => ([], s)
  | _ + 1, [] => ([], [])
  | count + 1, c :: rest =>
    if test c then
      let (taken, rest) := f.takeWhile test count (f.skip rest)
      (c :: taken, rest)
    else ([], c :: rest)

/-- The first character that counts, as the end of a range looks ahead for it. -/
def Flags.peek? (f : Flags) (s : List Char) : Option Char :=
  if !f.verbose then s.head?
  else match s.dropWhile Text.isBlank with
    | '#' :: rest => (rest.dropWhile Text.isBlank).head?
    | rest => rest.head?

/-! ## Escapes -/

/-- What an escape stands for. -/
inductive Escaped
  /-- A character, or a byte of that number. -/
  | char (c : Char) (byte : Bool)
  | cls (c : CharClass)
  | anchor (a : Anchor)

/-- Whether a character stands for itself after a backslash. -/
def isEscapable (c : Char) : Bool :=
  c.toNat < 0x80 && !c.isAlphanum && c != '<' && c != '>'

/-- The character of a number in hexadecimal digits. -/
def charOfHex? (digits : List Char) : Option Char := do
  if digits.isEmpty then none
  let n ← digits.foldlM (fun n c => (CodeSet.hexDigit? c).map (n * 16 + ·)) 0
  if n ≤ 0x10FFFF ∧ !(0xD800 ≤ n ∧ n ≤ 0xDFFF) then some (Char.ofNat n) else none

/-- Read the number of a character: in braces, or as a fixed count of digits. -/
def readHex (f : Flags) (count : Nat) (s : List Char) : Option (Escaped × List Char) :=
  match f.skip s with
  | '\x7b' :: rest =>
    let inner := f.skip rest
    let (digits, rest) := f.takeWhile (· != '\x7d') inner.length inner
    match rest with
    | '\x7d' :: rest => do return (.char (← charOfHex? digits) false, f.skip rest)
    | _ => none
  | rest => do
    let (digits, rest) := f.takeWhile (fun _ => true) count rest
    if digits.length < count then none
    return (.char (← charOfHex? digits) (count = 2), rest)

/-- The parts of a text before and after the first place where another one stands in it. -/
def splitAt? (separator : List Char) : List Char → Option (List Char × List Char)
  | [] => none
  | c :: rest =>
    if separator.isPrefixOf (c :: rest) then some ([], (c :: rest).drop separator.length)
    else (splitAt? separator rest).map fun (a, b) => (c :: a, b)

/-- The class that a name in braces stands for: that of a property, or of a value in one. -/
def propertyClass? (name : List Char) : Option CharClass :=
  match splitAt? ['!', '='] name with
  | some (p, v) => (CharClass.valued? p v).map .complement
  | none => match splitAt? [':'] name with
    | some (p, v) => CharClass.valued? p v
    | none => match splitAt? ['='] name with
      | some (p, v) => CharClass.valued? p v
      | none => CharClass.named? name

/-- Read the name of a class of Unicode: one letter, or a text in braces. -/
def readProperty (f : Flags) (negated : Bool) (s : List Char) : Option (Escaped × List Char) := do
  if !f.unicode then none
  let (name, rest) ← match f.skip s with
    | [] => none
    | '\x7b' :: rest =>
      let inner := f.skip rest
      let (name, rest) := f.takeWhile (· != '\x7d') inner.length inner
      match rest with
      | '\x7d' :: rest => some (name, rest)
      | _ => none
    | c :: rest => if c = '\\' then none else some ([c], f.skip rest)
  let c ← propertyClass? name
  return (.cls (CharClass.negateIf negated (f.fold c)), rest)

/-- The edge of words with a name. -/
def wordEdge? (name : List Char) : Option WordEdge :=
  let n := String.ofList name
  if n = "start" then some .start
  else if n = "end" then some .stop
  else if n = "start-half" then some .startHalf
  else if n = "end-half" then some .stopHalf
  else none

/-- Read what follows the escape of an edge of words: perhaps the name of an edge in braces. -/
def readWordEdge (f : Flags) (s : List Char) : Option (Escaped × List Char) :=
  let isNameChar (c : Char) : Bool := c.isAlpha || c = '-'
  let plain := (Escaped.anchor (.word f.unicode .any), s)
  match s with
  | '\x7b' :: rest =>
    match f.skip rest with
    | [] => none
    | c :: tail =>
      if !isNameChar c then some plain
      else
        let (name, rest) := f.takeWhile isNameChar (tail.length + 1) (c :: tail)
        match rest with
        | '\x7d' :: rest => (wordEdge? name).map fun e => (.anchor (.word f.unicode e), rest)
        | _ => none
  | _ => some plain

/-- A class with an escape of its own, by its letter; the capital stands for the complement, which
only classes of Unicode have. -/
def letterClass? (f : Flags) (c : Char) : Option CharClass := do
  let cls ←
    if c.toLower = 'd' then some (CharClass.digits f.unicode)
    else if c.toLower = 's' then some (CharClass.blanks f.unicode)
    else if c.toLower = 'w' then some (CharClass.wordChars f.unicode)
    else none
  if c.isLower then some cls else if f.unicode then some (.complement cls) else none

/-- Read an escape after its backslash. -/
def readEscape (f : Flags) : List Char → Option (Escaped × List Char)
  | [] => none
  | c :: rest =>
    let char (d : Char) : Option (Escaped × List Char) := some (.char d false, rest)
    let anchor (a : Anchor) : Option (Escaped × List Char) := some (.anchor a, rest)
    if isEscapable c then char c
    else match letterClass? f c with
      | some cls => some (.cls cls, rest)
      | none =>
        if c = 'x' then readHex f 2 rest
        else if c = 'u' then readHex f 4 rest
        else if c = 'U' then readHex f 8 rest
        else if c = 'p' ∨ c = 'P' then readProperty f (c = 'P') rest
        else if c = 'a' then char '\x07'
        else if c = 'f' then char '\x0c'
        else if c = 't' then char '\t'
        else if c = 'n' then char '\n'
        else if c = 'r' then char '\r'
        else if c = 'v' then char '\x0b'
        else if c = 'A' then anchor .textStart
        else if c = 'z' then anchor .textEnd
        else if c = 'b' then readWordEdge f rest
        else if c = 'B' then anchor (.word f.unicode .none)
        else if c = '<' then anchor (.word f.unicode .start)
        else if c = '>' then anchor (.word f.unicode .stop)
        else none

/-! ## Brackets -/

/-- A class that has been read, and how deep it is nested. -/
structure Nested where
  cls : CharClass
  depth : Nat

/-- An operation between classes in a bracket. -/
inductive SetOp
  /-- `&&` -/
  | inter
  /-- `--` -/
  | minus
  /-- `~~` -/
  | exclusive

/-- A bracket under way. -/
structure Bracket where
  negated : Bool
  /-- What stands before the last operation. -/
  left : Option (Nested × SetOp) := none
  /-- What stands after it, last first. -/
  items : List Nested

def unite : List Nested → Nested
  | [] => ⟨.none, 0⟩
  | [item] => item
  | item :: items => items.foldl
    (fun a b => ⟨.union b.cls a.cls, max a.depth (b.depth + 1)⟩) ⟨item.cls, item.depth + 1⟩

/-- All of a bracket under way as one class. -/
def Bracket.total (f : Flags) (b : Bracket) : Nested :=
  let right := unite b.items
  match b.left with
  | none => right
  | some (left, op) =>
    let l := f.fold left.cls
    let r := f.fold right.cls
    let cls := match op with
      | .inter => CharClass.inter l r
      | .minus => .minus l r
      | .exclusive => .exclusive l r
    ⟨cls, max left.depth right.depth + 1⟩

/-- The class of a bracket that is closed; only classes of Unicode can be negated. -/
def Bracket.close? (f : Flags) (b : Bracket) : Option Nested :=
  let t := b.total f
  if b.negated && !f.unicode then none
  else some ⟨CharClass.negateIf b.negated (f.fold t.cls), t.depth + 1⟩

/-- Read the start of a bracket: its negation, and the marks that stand for themselves there. -/
def openBracket (f : Flags) (s : List Char) : Bracket × List Char :=
  let s := f.skip s
  let (negated, s) := match s with
    | '^' :: rest => (true, f.skip rest)
    | _ => (false, s)
  let (hyphens, s) := f.takeWhile (· = '-') s.length s
  let items := hyphens.map fun c => Nested.mk (.single c) 0
  match items, s with
  | [], ']' :: rest => (⟨negated, none, [⟨.single ']', 0⟩]⟩, f.skip rest)
  | _, _ => (⟨negated, none, items⟩, s)

/-- Read the name of a class of ASCII characters after its opening bracket: `:alpha:]`. -/
def readAsciiClass (f : Flags) (s : List Char) : Option (Option CharClass × List Char) :=
  match s with
  | ':' :: rest =>
    let (negated, rest) := match rest with
      | '^' :: rest => (true, rest)
      | _ => (false, rest)
    match rest.dropWhile (· != ':') with
    | ':' :: ']' :: after =>
      (CharClass.ascii? (String.ofList (rest.takeWhile (· != ':')))).map fun c =>
        (if negated && !f.unicode then none else some (CharClass.negateIf negated (f.fold c)),
          after)
    | _ => none
  | _ => none

/-- A character as a member of a class. Classes that are not of Unicode hold ASCII only. -/
def member? (f : Flags) (c : Char) : Option Char :=
  if f.unicode || c.toNat < 0x80 then some c else none

/-- Read a character or an escape in a bracket. -/
def readMember (f : Flags) : List Char → Option (Escaped × List Char)
  | [] => none
  | '\\' :: rest => readEscape f rest
  | c :: rest => some (.char c false, rest)

/-- Read an item of a bracket: a class, a character or a range of characters. -/
def readItem (f : Flags) (s : List Char) : Option (CharClass × List Char) := do
  let (first, rest) ← readMember f s
  let rest := f.skip rest
  let isRange := match rest with
    | '-' :: after => f.peek? after != some ']' && f.peek? after != some '-'
    | _ => false
  match first with
  | .char a _ =>
    if isRange then
      let (last, rest) ← readMember f (f.skip (rest.drop 1))
      match last with
      | .char b _ =>
        let a ← member? f a
        let b ← member? f b
        if a ≤ b then return (.range a b, rest) else none
      | _ => none
    else return (.single (← member? f a), rest)
  | .cls c => if isRange then none else return (c, rest)
  | .anchor _ => none

/-- Read on in a bracket inside of others; `fuel` bounds the number of steps. -/
def readBracketFrom (f : Flags) :
    Nat → Bracket → List Bracket → List Char → Option (Nested × List Char)
  | 0, _, _, _ => none
  | fuel + 1, b, outer, s =>
    let operation (op : SetOp) (rest : List Char) : Option (Nested × List Char) :=
      readBracketFrom f fuel { b with left := some (b.total f, op), items := [] } outer rest
    match f.skip s with
    | [] => none
    | '[' :: rest =>
      match readAsciiClass f rest with
      | some (none, _) => none
      | some (some c, rest) =>
        readBracketFrom f fuel { b with items := ⟨c, 0⟩ :: b.items } outer rest
      | none =>
        let (inner, rest) := openBracket f rest
        readBracketFrom f fuel inner (b :: outer) rest
    | ']' :: rest =>
      match b.close? f, outer with
      | none, _ => none
      | some n, [] => some (n, rest)
      | some n, o :: outer => readBracketFrom f fuel { o with items := n :: o.items } outer rest
    | '&' :: '&' :: rest => operation .inter rest
    | '-' :: '-' :: rest => operation .minus rest
    | '~' :: '~' :: rest => operation .exclusive rest
    | rest =>
      match readItem f rest with
      | some (c, rest) => readBracketFrom f fuel { b with items := ⟨c, 0⟩ :: b.items } outer rest
      | none => none

/-- Read a bracketed class after its opening bracket. -/
def readBracket (f : Flags) (s : List Char) : Option (Nested × List Char) :=
  let (b, rest) := openBracket f s
  readBracketFrom f (s.length + 1) b [] rest

end EntityStore.Pattern
