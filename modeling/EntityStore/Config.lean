import EntityStore.Error
import EntityStore.Schema.Options
import EntityStore.Storage.Key

set_option autoImplicit false

/-! # Configuration of a registry

A configuration tells how keys start, what to do about unsaved changes, and which adapter to use.
It is read from a JSON document, as an object or as a sequence of the same parts in a fixed order;
parts that are missing take their defaults. Members with other names are passed over. -/

namespace EntityStore

/-- Which adapter to use. -/
inductive AdapterConfig
  /-- Records in memory; `binary` tells whether bytes are taken as they are. -/
  | memory (binary : Bool)
  | files (root : String)
deriving DecidableEq, Repr

/-- The configuration of a registry. -/
structure Config where
  keyBase : String := "models"
  /-- The policy for unsaved changes of models that declare none. -/
  onUnsaved : UnsavedPolicy := .fail
  /-- The adapter of models that name none. -/
  adapter : AdapterConfig := .memory true
deriving DecidableEq, Repr

/-! ## Adapters -/

namespace AdapterConfig

def kinds : List String := ["memory", "file"]

def kind : AdapterConfig → String
  | .memory _ => "memory"
  | .files _ => "file"

def toJson : AdapterConfig → Json
  | .memory binary => .object [("kind", .string "memory"), ("binary", .bool binary)]
  | .files root => .object [("kind", .string "file"), ("root", .string root)]

/-- Read the name of a kind; `true` stands for memory. -/
def readKind : Json → Except Json.Mismatch Bool
  | .string name =>
    if name = "memory" then .ok true
    else if name = "file" then .ok false
    else .error (.unknownVariant name kinds)
  | j => .error (.invalidType j.found "variant identifier")

def readBinary : Json → Except Json.Mismatch Bool
  | .bool b => .ok b
  | j => .error (.invalidType j.found "a boolean")

def readRoot : Json → Except Json.Mismatch String
  | .string s => .ok s
  | j => .error (.invalidType j.found "path string")

/-- Read a member that may occur once among others. -/
def readOnce {α : Type} (name : String) (read : Json → Except Json.Mismatch α)
    (members : List (String × Json)) : Except Json.Mismatch (Option α) :=
  members.foldlM (fun found (n, j) =>
    if n ≠ name then .ok found
    else match found with
      | some _ => .error (.duplicateField name)
      | none => (read j).map some) none

/-- Read the parts of an adapter from members. -/
def ofMembers (isMemory : Bool) (members : List (String × Json)) :
    Except Json.Mismatch AdapterConfig := do
  let others := members.filter (·.1 != "kind")
  if isMemory then
    return .memory ((← readOnce "binary" readBinary others).getD true)
  else
    match ← readOnce "root" readRoot others with
    | some root => return .files root
    | none => throw (.missingField "root")

/-- The mismatch of a sequence that is longer than expected. -/
def tooLong (length expected : Nat) : Json.Mismatch :=
  .invalidLength length
    (if expected = 1 then "1 element in sequence" else s!"{expected} elements in sequence")

/-- Read the parts of an adapter from a sequence. -/
def ofItems (isMemory : Bool) (items : List Json) : Except Json.Mismatch AdapterConfig := do
  match items with
  | [] =>
    if isMemory then return .memory true
    else throw (.invalidLength 0 "struct variant AdapterConfig::File with 1 element")
  | item :: rest =>
    let adapter ← if isMemory then (readBinary item).map memory else (readRoot item).map files
    if rest.isEmpty then return adapter else throw (tooLong items.length 1)

/-- The adapter that a document describes. -/
def ofJson : Json → Except Json.Mismatch AdapterConfig
  | .array [] => .error (.missingField "kind")
  | .array (tag :: rest) => do ofItems (← readKind tag) rest
  | .object members => do
    match ← readOnce "kind" readKind members with
    | some isMemory => ofMembers isMemory members
    | none => throw (.missingField "kind")
  | j => .error (.invalidType j.found "internally tagged enum AdapterConfig")

/-- Read the description of an adapter within a configuration. -/
def read : Json.Reader AdapterConfig := fun s => do
  let (j, rest) ← Json.Reader.document (Json.maxDepth - 1) s
  match ofJson j with
  | .ok adapter => return (adapter, rest)
  | .error m => throw (.mismatch m)

end AdapterConfig

/-! ## Configurations -/

namespace Config

/-- The document of a configuration. -/
def toJson (c : Config) : Json :=
  .object [("dataPrefix", .string c.keyBase), ("onUnsaved", .string c.onUnsaved.name),
    ("adapter", c.adapter.toJson)]

/-- The policy with exactly a name. -/
def policy (name : String) : Except Json.Fault UnsavedPolicy :=
  match UnsavedPolicy.all.find? fun p => p.name = name with
  | some p => .ok p
  | none => .error (.mismatch (.unknownVariant name (UnsavedPolicy.all.map (·.name))))

/-- Read a policy: its name, or an object with `null` under its name. -/
def readPolicy : Json.Reader UnsavedPolicy := fun s =>
  match s with
  | [] => .error .malformed
  | '\x22' :: _ => do
    let (name, rest) ← Json.Reader.string "variant identifier" s
    return (← policy name, rest)
  | '\x7b' :: rest => do
    let (name, rest) ← Json.Reader.string "variant identifier" (Json.skipSpace rest)
    let p ← policy name
    let rest ← Json.Reader.colon rest
    match Json.takeWord ['n', 'u', 'l', 'l'] rest with
    | none => throw (Json.Reader.unexpected rest "unit")
    | some rest =>
      match Json.skipSpace rest with
      | '\x7d' :: rest => return (p, rest)
      | [] => throw .malformed
      | _ => throw .expectedValue
  | _ => .error .expectedValue

/-- The parts of a configuration that have been read. -/
structure Parts where
  keyBase : Option String := none
  onUnsaved : Option UnsavedPolicy := none
  adapter : Option AdapterConfig := none

/-- The configuration with the defaults of missing parts. -/
def Parts.total (p : Parts) : Config :=
  { keyBase := p.keyBase.getD "models", onUnsaved := p.onUnsaved.getD .fail
    adapter := p.adapter.getD (.memory true) }

/-- Read a part that has not been read before. -/
def readNew {α : Type} (name : String) (known : Option α) (read : Json.Reader α)
    (keep : α → Parts) : Json.Reader Parts := fun s =>
  if known.isSome then .error (.mismatch (.duplicateField name))
  else (read s).map fun (a, rest) => (keep a, rest)

/-- Read a member of a configuration. -/
def readMember (name : String) (p : Parts) : Json.Reader Parts :=
  if name = "dataPrefix" then
    readNew name p.keyBase (Json.Reader.string "a string") fun x => { p with keyBase := some x }
  else if name = "onUnsaved" then
    readNew name p.onUnsaved readPolicy fun x => { p with onUnsaved := some x }
  else if name = "adapter" then
    readNew name p.adapter AdapterConfig.read fun x => { p with adapter := some x }
  else fun s => (Json.Reader.ignored s).map fun ((), rest) => (p, rest)

/-- Go to the next item of a sequence; nothing is left at its closing bracket. -/
def nextItem (first : Bool) (s : List Char) : Except Json.Fault (Option (List Char)) :=
  match Json.skipSpace s with
  | ']' :: _ => .ok none
  | ',' :: rest => if first then .error .malformed else .ok (some (Json.skipSpace rest))
  | rest => if first then .ok (some rest) else .error .malformed

/-- Read the names of parts in the order in which they stand in a sequence. -/
def readItems (first : Bool) (p : Parts) : List String → Json.Reader Parts
  | [], s => .ok (p, s)
  | name :: names, s => do
    match ← nextItem first s with
    | none => return (p, s)
    | some rest =>
      let (p, rest) ← readMember name p rest
      readItems false p names rest

def endItems (s : List Char) : Except Json.Fault (List Char) :=
  match Json.skipSpace s with
  | ']' :: rest => .ok rest
  | [] => .error .malformed
  | _ => .error .trailingCharacters

def read : Json.Reader Config := fun s =>
  match s with
  | '\x7b' :: rest => do
    let (p, rest) ← Json.Reader.object readMember {} rest
    return (p.total, rest)
  | '[' :: rest => do
    let (p, rest) ← readItems true {} ["dataPrefix", "onUnsaved", "adapter"] rest
    return (p.total, ← endItems rest)
  | s => .error (Json.Reader.unexpected s "struct ModelConfig")

/-- The configuration that a text holds. The keys of all records must be keys. -/
def ofText (text : String) : Except ConfigError Config := do
  let fault (f : Json.Fault) : ConfigError := .text f
  let (config, rest) ← (read (Json.skipSpace text.toList)).mapError fault
  (Json.Reader.ending rest).mapError fault
  if Key.isValid config.keyBase then return config else throw (.base config.keyBase)

end Config

end EntityStore
