import EntityStore.Json.Reader

set_option autoImplicit false

/-! # Documents that do not fit what is expected

A reader of a particular shape of document fails in two ways: the text may not be a document, or
the document may not have the shape. A `Mismatch` is the second: it names the first part that does
not fit, in the order in which the text is read. `Fault` is either.

The typed readers at the end work on the text, because the first fault in reading order counts:
a member that does not fit is reported even if the text breaks off after it. -/

namespace EntityStore.Json

/-- What was found in place of what was expected. -/
inductive Found
  | null
  | bool (b : Bool)
  | integer (i : Int)
  | number (x : Binary64)
  | string (s : String)
  | sequence
  | map

def Found.describe : Found → String
  | .null => "null"
  | .bool b => s!"boolean `{b}`"
  | .integer i => s!"integer `{i}`"
  | .number x => s!"floating point `{Binary64.Layout.document.write x}`"
  | .string s => s!"string {Text.quote s}"
  | .sequence => "sequence"
  | .map => "map"

/-- What a document is, in a message. -/
def found : Json → Found
  | .null => .null
  | .bool b => .bool b
  | .integer i => .integer i
  | .number x => .number x
  | .string s => .string s
  | .array _ => .sequence
  | .object _ => .map

/-- Why a document does not have the expected shape. -/
inductive Mismatch
  | invalidType (found : Found) (expected : String)
  /-- A part is of the expected kind but out of range. -/
  | invalidValue (found : Found) (expected : String)
  | invalidLength (length : Nat) (expected : String)
  | missingField (name : String)
  | duplicateField (name : String)
  | unknownVariant (name : String) (expected : List String)
  /-- None of the alternatives fits. -/
  | noVariant (alternatives : String)

/-- Names between backquotes, joined for a message. -/
def oneOf : List String → String
  | [] => ""
  | [a] => s!"`{a}`"
  | [a, b] => s!"`{a}` or `{b}`"
  | names => "one of " ++ ", ".intercalate (names.map fun n => s!"`{n}`")

def Mismatch.message : Mismatch → String
  | .invalidType f expected => s!"invalid type: {f.describe}, expected {expected}"
  | .invalidValue f expected => s!"invalid value: {f.describe}, expected {expected}"
  | .invalidLength n expected => s!"invalid length {n}, expected {expected}"
  | .missingField name => s!"missing field `{name}`"
  | .duplicateField name => s!"duplicate field `{name}`"
  | .unknownVariant name expected => s!"unknown variant `{name}`, expected {oneOf expected}"
  | .noVariant alternatives => s!"data did not match any variant of {alternatives}"

/-- Why a text could not be read. -/
inductive Fault
  | malformed
  | expectedValue
  | trailingCharacters
  | mismatch (m : Mismatch)

/-- Whether the text was well formed up to the fault, which is one of shape. -/
def Fault.isMismatch : Fault → Bool
  | .mismatch _ => true
  | _ => false

def Fault.message : Fault → String
  | .malformed => "malformed text"
  | .expectedValue => "expected value"
  | .trailingCharacters => "trailing characters"
  | .mismatch m => m.message

/-- A typed reader: it takes what it reads off the front of a text. -/
abbrev Reader (α : Type) := List Char → Except Fault (α × List Char)

namespace Reader

/-- Turn the lack of a result into a fault. -/
def orMalformed {α : Type} : Option α → Except Fault α
  | some a => .ok a
  | none => .error .malformed

/-- Read a document of any shape that is nested at most `depth` deep. -/
def document (depth : Nat) : Reader Json := fun s => orMalformed (take depth s)

/-- The fault of a text whose next part should have been something else. -/
def unexpected (s : List Char) (expected : String) : Fault :=
  match s with
  | '[' :: _ => .mismatch (.invalidType .sequence expected)
  | '\x7b' :: _ => .mismatch (.invalidType .map expected)
  | c :: _ =>
    if c = 'n' ∨ c = 't' ∨ c = 'f' ∨ c = '\x22' ∨ c = '-' ∨ c.isDigit then
      match takeScalar s with
      | some (j, _) => .mismatch (.invalidType j.found expected)
      | none => .malformed
    else .expectedValue
  | [] => .malformed

def string (expected : String) : Reader String := fun s =>
  match s with
  | '\x22' :: rest => orMalformed (takeChars rest)
  | _ => .error (unexpected s expected)

def colon (s : List Char) : Except Fault (List Char) :=
  (orMalformed (takeWord [':'] (skipSpace s))).map skipSpace

/-- Nothing but blanks may follow. -/
def ending (s : List Char) : Except Fault Unit :=
  if (skipSpace s).isEmpty then .ok () else .error .trailingCharacters

/-- Read the members of an object after its opening brace; `member` reads the part after a name
and its colon into the state, `fuel` bounds the number of members. -/
def members {α : Type} (member : String → α → Reader α) :
    Nat → Bool → α → Reader α
  | 0, _, _, _ => .error .malformed
  | fuel + 1, first, state, s =>
    match skipSpace s with
    | '\x7d' :: rest => .ok (state, rest)
    | rest => do
      let rest ← if first then .ok rest
        else (orMalformed (takeWord [','] rest)).map skipSpace
      match rest with
      | '\x22' :: rest =>
        let (name, rest) ← orMalformed (takeChars rest)
        let rest ← colon rest
        let (state, rest) ← member name state rest
        members member fuel false state rest
      | _ => .error .malformed

def object {α : Type} (member : String → α → Reader α) (state : α) : Reader α := fun s =>
  members member (s.length + 1) true state s

/-! ## Parts that are passed over

A member that no one asked for only has to be well formed. It may be nested to any depth, its
numbers may be out of range, and its escaped characters need not exist. -/

/-- Pass over a text after its opening mark. -/
def skipChars : List Char → Option (List Char)
  | [] => none
  | '\x22' :: rest => some rest
  | '\\' :: 'u' :: a :: b :: c :: d :: rest =>
    if [a, b, c, d].all fun x => (CodeSet.hexDigit? x).isSome then skipChars rest else none
  | '\\' :: c :: rest =>
    if c ∈ ['\x22', '\\', '/', 'b', 'f', 'n', 'r', 't'] then skipChars rest else none
  | c :: rest => if c.toNat < 0x20 then none else skipChars rest

def skipNumber (s : List Char) : Option (List Char) := do
  let (whole, rest) := Digits.split s
  if whole.isEmpty || (whole.head? = some '0' && 1 < whole.length) then none
  let rest ← match rest with
    | '.' :: tail =>
      let (fraction, rest) := Digits.split tail
      if fraction.isEmpty then none else some rest
    | _ => some rest
  match rest with
  | c :: tail => if c = 'e' ∨ c = 'E' then (takeExponent tail).map (·.2) else some rest
  | [] => some rest

def skipScalar (s : List Char) : Option (List Char) :=
  match s with
  | 'n' :: _ => takeWord ['n', 'u', 'l', 'l'] s
  | 't' :: _ => takeWord ['t', 'r', 'u', 'e'] s
  | 'f' :: _ => takeWord ['f', 'a', 'l', 's', 'e'] s
  | '\x22' :: rest => skipChars rest
  | '-' :: rest => skipNumber rest
  | _ => skipNumber s

def skipName (s : List Char) : Option (List Char) :=
  match skipSpace s with
  | '\x22' :: rest => do takeWord [':'] (skipSpace (← skipChars rest))
  | _ => none

/-- Pass over a value. `open_` holds the objects (`true`) and sequences around the place, innermost
first; `value` tells whether a value is to start there, and `fuel` bounds the number of steps. -/
def skipFrom : Nat → List Bool → Bool → List Char → Option (List Char)
  | 0, _, _, _ => none
  | fuel + 1, open_, true, s =>
    match skipSpace s with
    | '[' :: rest =>
      match skipSpace rest with
      | ']' :: rest => skipFrom fuel open_ false rest
      | rest => skipFrom fuel (false :: open_) true rest
    | '\x7b' :: rest =>
      match skipSpace rest with
      | '\x7d' :: rest => skipFrom fuel open_ false rest
      | rest => (skipName rest).bind (skipFrom fuel (true :: open_) true)
    | rest => (skipScalar rest).bind (skipFrom fuel open_ false)
  | _ + 1, [], false, s => some s
  | fuel + 1, inObject :: open_, false, s =>
    match skipSpace s, inObject with
    | ',' :: rest, true => (skipName rest).bind (skipFrom fuel (true :: open_) true)
    | ',' :: rest, false => skipFrom fuel (false :: open_) true rest
    | '\x7d' :: rest, true => skipFrom fuel open_ false rest
    | ']' :: rest, false => skipFrom fuel open_ false rest
    | _, _ => none

/-- Pass over a value of any shape. -/
def ignored : Reader Unit := fun s =>
  (orMalformed (skipFrom (2 * s.length + 2) [] true s)).map ((), ·)

end Reader

end EntityStore.Json
