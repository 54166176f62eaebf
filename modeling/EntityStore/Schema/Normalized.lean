import EntityStore.Schema.Draft

set_option autoImplicit false

/-! # Normal schemas

A draft is checked against the schema of the base and brought into normal form: types are resolved,
limits and defaults converted, names checked. All that is wrong is listed; what can be understood
is kept even then, so that the declarations of indices can be checked, too.

Properties, computed properties and methods share one namespace. A name must be an identifier, must
not be reserved or that of an event, must not occur twice, and must not be that of a member of
another kind in the base. -/

namespace EntityStore

/-! ## Names -/

/-- Whether a text is an identifier: ASCII letters, digits and underscores, no digit first. -/
def isIdentifier (name : String) : Bool :=
  match name.toList with
  | [] => false
  | c :: rest => (c.isAlpha || c == '_') && rest.all fun c => c.isAlphanum || c == '_'

/-- Names that no member can have. -/
def reservedNames : List String := ["super", "prototype", "constructor", "uuid"]

/-- What is wrong with the name of a member, given the names before it. -/
def nameFault? {σ : Type} (base : Schema σ) (seen : Names) (kind : MemberKind) (name : String) :
    Option NameFault :=
  if name.toList.head? = some '$' then some .dollar
  else if !isIdentifier name then some .malformed
  else if reservedNames.contains name then some .reserved
  else if (LifecycleEvent.ofName? name).isSome then some .event
  else if seen.contains name then some .duplicate
  else match base.kindOf? name with
    | some other => if other = kind then none else some (.inherited other)
    | none => none

/-! ## Properties -/

/-- A default in the form of the values of its property, and the problem with it. -/
def normalDefault (name : String) (t : ScalarType) (p : Property) :
    Option Value × List Problem :=
  match p.default with
  | none => (none, [])
  | some v =>
    let c := t.coerce p none v
    if c.isInvalid then (none, [.defaultValue name v])
    else if c.isNull then (none, [])
    else (some c, [])

/-- The definition of a property in normal form, if its type exists, and the problems with it. -/
def normalProperty [Pattern.Reader] (name : String) (p : Property) :
    Option Property × List Problem :=
  match ScalarType.ofName? p.typeName with
  | none => (none, [.unknownType p.typeName name])
  | some t =>
    let (p, faults) := t.checkDefinition { p with typeName := t.name }
    let (default, problems) := normalDefault name t p
    (some { p with default }, faults.map (.definition name) ++ problems)

/-! ## Computed properties -/

/-- The name of a computed property and the type that follows it after a colon. -/
def splitKey (key : String) : String × Option String :=
  let s := key.toList
  let name := String.ofList (Text.trimList (s.takeWhile (· != ':')))
  match s.dropWhile (· != ':') with
  | [] => (name, none)
  | _ :: rest => (name, some (String.ofList (Text.trimList rest)))

/-- The name of the type of a computed property: the one given apart, else the one in its key,
unless that is blank. -/
def computedTypeName? (c : ComputedDraft) (embedded : Option String) : Option String :=
  c.typeName <|> embedded.filter fun t => !t.isEmpty

/-- A computed property in normal form, its name, and the problems with it. -/
def normalComputed (key : String) (c : ComputedDraft) : String × Computed × List Problem :=
  let (name, embedded) := splitKey key
  let typeName := computedTypeName? c embedded
  let type := typeName.bind ScalarType.ofName?
  let unknown := match typeName, type with
    | some t, none => [Problem.unknownComputedType t name]
    | _, _ => []
  let missing := if c.code.isNone then [Problem.noComputedCode name] else []
  (name, { code := c.code.getD .silent, type }, unknown ++ missing)

/-! ## Schemas -/

/-- What has been normalised so far. -/
structure Normalizing (σ : Type) where
  schema : Schema σ := {}
  seen : Names := Bag.empty
  problems : List Problem := []

namespace Normalizing

variable {σ : Type}

def report (n : Normalizing σ) (problems : List Problem) : Normalizing σ :=
  { n with problems := n.problems ++ problems }

/-- Take a name for a member; `declare` puts the member into the schema if it can have the name. -/
def takeName (n : Normalizing σ) (base : Schema σ) (kind : MemberKind) (name : String)
    (declare : Normalizing σ → Normalizing σ) : Normalizing σ :=
  let fault := nameFault? base n.seen kind name
  let n := { n with seen := n.seen.add name }
  match fault with
  | some f => n.report [.memberName kind name f]
  | none => declare n

def addProperty [Pattern.Reader] (base : Schema σ) (n : Normalizing σ) (e : String × Property) :
    Normalizing σ :=
  let (p, problems) := normalProperty e.1 e.2
  let n := n.report problems
  match p with
  | none => n
  | some p => n.takeName base .property e.1 fun n =>
    { n with schema := { n.schema with properties := n.schema.properties.insert e.1 p } }

def addComputed (base : Schema σ) (n : Normalizing σ) (e : String × ComputedDraft) :
    Normalizing σ :=
  let (name, c, problems) := normalComputed e.1 e.2
  (n.report problems).takeName base .computed name fun n =>
    { n with schema := { n.schema with computed := n.schema.computed.insert name c } }

def addMethod (base : Schema σ) (n : Normalizing σ) (e : String × Option (Method σ)) :
    Normalizing σ :=
  n.takeName base .method e.1 fun n =>
    match e.2 with
    | some code =>
      { n with schema := { n.schema with methods := n.schema.methods.insert e.1 code } }
    | none => n.report [.noMethodCode e.1]

def addHook (n : Normalizing σ) (e : String × Option (Hook σ)) : Normalizing σ :=
  match LifecycleEvent.ofName? e.1, e.2 with
  | none, _ => n.report [.unknownEvent e.1]
  | some _, none => n.report [.noHookCode e.1]
  | some event, some code =>
    let again := (n.schema.hooks event).isSome
    { n with schema := n.schema.setHook event code }.report
      (if again then [.duplicateHook event] else [])

def addOption (n : Normalizing σ) (e : String × Json) : Normalizing σ :=
  let options := n.schema.options
  if e.1 = "onUnsaved" then
    match e.2 with
    | .null => n
    | .string text => match UnsavedPolicy.ofName? text with
      | some policy =>
        { n with schema := { n.schema with options := { options with onUnsaved := some policy } } }
      | none => n.report [.policy text]
    | j => n.report [.policy j.compact]
  else
    { n with schema :=
      { n.schema with options := { options with extra := options.extra.insert e.1 e.2 } } }

end Normalizing

/-- The normal form of a draft for the model of a name that inherits from `base`: the schema that
it declares itself, and the problems with it. -/
def Draft.normalize [Pattern.Reader] {σ : Type} (d : Draft σ) (model : String) (base : Schema σ)
    (isDerived : Bool) : Schema σ × List Problem :=
  let empty := if !isDerived && d.properties.isEmpty then [Problem.noProperty model] else []
  let n : Normalizing σ := { problems := d.problems ++ empty }
  let n := d.properties.foldl (Normalizing.addProperty base) n
  let n := d.computed.foldl (Normalizing.addComputed base) n
  let n := d.methods.foldl (Normalizing.addMethod base) n
  let n := d.hooks.foldl Normalizing.addHook n
  let n := d.options.foldl Normalizing.addOption n
  (n.schema, n.problems)

end EntityStore
