import EntityStore.Property.Document
import EntityStore.Schema

set_option autoImplicit false

/-! # Drafts of schemas

A draft is a schema as its author writes it: nothing has been checked yet, names may occur twice,
and code may be missing. A draft can be built entry by entry, or read from a JSON document, which
holds no code; what is wrong with the document is kept as a problem of the draft. -/

namespace EntityStore

/-- A computed property as it is written. -/
structure ComputedDraft where
  code : Option ComputedCode := none
  /-- The name of its type, if it is given apart from its own name. -/
  typeName : Option String := none

/-- A schema as it is written. -/
structure Draft (σ : Type) where
  properties : List (String × Property) := []
  /-- Computed properties, by their name or their name and type with a colon between them. -/
  computed : List (String × ComputedDraft) := []
  methods : List (String × Option (Method σ)) := []
  hooks : List (String × Option (Hook σ)) := []
  options : List (String × Json) := []
  /-- Indices with declarations of their own. -/
  indices : List (String × IndexSpec) := []
  /-- Problems of the document from which the draft was read. -/
  problems : List Problem := []

namespace Draft

variable {σ : Type}

instance : Inhabited (Draft σ) := ⟨{}⟩

/-! ## Entry by entry -/

def property (d : Draft σ) (name : String) (p : Property) : Draft σ :=
  { d with properties := d.properties ++ [(name, p)] }

def computedProperty (d : Draft σ) (key : String) (c : ComputedDraft) : Draft σ :=
  { d with computed := d.computed ++ [(key, c)] }

def method (d : Draft σ) (name : String) (code : Option (Method σ)) : Draft σ :=
  { d with methods := d.methods ++ [(name, code)] }

def hook (d : Draft σ) (name : String) (code : Option (Hook σ)) : Draft σ :=
  { d with hooks := d.hooks ++ [(name, code)] }

def option (d : Draft σ) (name : String) (j : Json) : Draft σ :=
  { d with options := d.options ++ [(name, j)] }

def index (d : Draft σ) (key : String) (spec : IndexSpec) : Draft σ :=
  { d with indices := d.indices ++ [(key, spec)] }

def problem (d : Draft σ) (p : Problem) : Draft σ := { d with problems := d.problems ++ [p] }

/-! ## From a document -/

/-- The members of the document of a property: those of an object, none for `null`, and the type
for a text. -/
def propertyMembers? : Json → Option (List (String × Json))
  | .null => some []
  | .string typeName => some [("type", .string typeName)]
  | .object members => some members
  | _ => none

def readProperty (d : Draft σ) (member : String × Json) : Draft σ :=
  let (name, j) := member
  match propertyMembers? j with
  | none => d.problem (.propertyShape name)
  | some members => match Property.ofMembers members with
    | .ok p => d.property name p
    | .error m => d.problem (.propertyDocument name m)

/-- The type in the document of a computed property; anything but an object or a text stands for
no type. -/
def computedType? : Json → Option (Option String)
  | .object members => match members.lookup "type" with
    | none | some .null => some none
    | some (.string t) => some (some t)
    | some _ => none
  | .string t => some (some t)
  | _ => some none

def readComputed (d : Draft σ) (member : String × Json) : Draft σ :=
  let (key, j) := member
  match computedType? j with
  | some typeName => d.computedProperty key { typeName }
  | none => d.problem (.computedShape key)

def readSection (d : Draft σ) (member : String × Json) : Draft σ :=
  let (name, j) := member
  match j with
  | .null => d
  | .object members =>
    if name = "props" ∨ name = "properties" then members.foldl readProperty d
    else if name = "computed" then members.foldl readComputed d
    else if name = "methods" then members.foldl (fun d m => d.method m.1 none) d
    else if name = "hooks" then members.foldl (fun d m => d.hook m.1 none) d
    else if name = "options" then members.foldl (fun d m => d.option m.1 m.2) d
    else if name = "indices" ∨ name = "indexes" ∨ name = "index" then
      members.foldl (fun d m => d.index m.1 (IndexSpec.ofSectionJson m.2)) d
    else d.problem (.unknownSection name)
  | _ => d.problem (.sectionShape name)

/-- The draft that a document stands for. -/
def ofJson : Json → Draft σ
  | .object members => members.foldl readSection {}
  | _ => ({} : Draft σ).problem .schemaShape

/-- The draft that a text holds. -/
def ofText (text : String) : Except ModelError (Draft σ) :=
  match Json.ofTextDistinct? text with
  | some j => .ok (ofJson j)
  | none => .error (.config .schemaText)

end Draft

end EntityStore
