import EntityStore.Index.Sorted
import EntityStore.Schema

set_option autoImplicit false

/-! # Definitions of indices

From the declarations of a schema to the indices of a model. Every declaration stands for some
requests, one for each comparison; a request becomes a definition when its comparison, its property
and its type are known (`collectIndices`). A model inherits the definitions of its base, and its
own ones take the place of those with the same property and comparison (`inheritIndices`). -/

namespace EntityStore

structure IndexDefinition where
  property : String
  comparison : Comparison
  /-- The type whose order sorts the values. -/
  type : ScalarType
  reducer : Option Reducer := none

namespace IndexDefinition

/-- What is kept of a value. -/
def reduce (d : IndexDefinition) (v : Value) : Value :=
  match d.reducer with
  | some r => r v
  | none => v

/-- The key of an index within its model. -/
def keyOf (property : String) (c : Comparison) : String := s!"{property}_{c.name}"

/-- The key of an index within its model. -/
def key (d : IndexDefinition) : String := keyOf d.property d.comparison

def isFor (d : IndexDefinition) (property : String) (c : Comparison) : Bool :=
  d.property == property && d.comparison == c

end IndexDefinition

/-! ## Requests -/

/-- The comparisons for which there are indices, in the order of their names. -/
def indexable : List Comparison :=
  [.between, .equal, .greater, .atLeast, .less, .atMost, .notEqual]

/-- A declaration of one index. -/
structure IndexRequest where
  property : String
  /-- The name of the comparison, equality if there is none. -/
  comparison : Option String := none
  reducer : Option Reducer := none
  /-- The type of the values, whatever the property tells. -/
  type : Option ScalarType := none
  /-- The name of the type of the values, if the property does not tell it. -/
  typeName : Option String := none

/-- The requests of the declaration of a property, and the problems with it. -/
def inlineRequests (property : String) : IndexSpec → List IndexRequest × List Problem
  | .reduced r => ([{ property, reducer := some r }], [])
  | .enabled on => (if on then [{ property }] else [], [])
  | .comparison name =>
    (if (Text.trim name).isEmpty then [] else [{ property, comparison := some name }], [])
  | .comparisons names => (names.map fun name => { property, comparison := some name }, [])
  | .switches entries =>
    (entries.filterMap fun (name, switch) => match switch with
      | .enabled false => none
      | .enabled true => some { property, comparison := some name }
      | .reduced r => some { property, comparison := some name, reducer := some r }, [])
  | .details d =>
    if d.property.any (· != property) then ([], [.indexElsewhere property])
    else ([{ property, comparison := d.comparison, reducer := d.reducer, type := d.type,
             typeName := d.typeName }], [])
  | .unsupported reason => ([], [.inlineIndex property reason])

/-- The requests of a declaration in the section of indices, and the problems with it. -/
def sectionRequests (key : String) : IndexSpec → List IndexRequest × List Problem
  | .reduced r => ([{ property := key, reducer := some r }], [])
  | .enabled on => (if on then [{ property := key }] else [], [])
  | .comparison name =>
    (if (Text.trim name).isEmpty then [] else [{ property := key, comparison := some name }], [])
  | .comparisons _ | .switches _ => ([], [.indexPlural key])
  | .details d =>
    ([{ property := d.property.getD key, comparison := d.comparison, reducer := d.reducer,
        type := d.type, typeName := d.typeName }], [])
  | .unsupported reason => ([], [.sectionIndex key reason])

def IndexRequest.comparisonName (r : IndexRequest) : String := Text.fold (r.comparison.getD "eq")

/-- The comparison of a request, if there are indices for it. -/
def IndexRequest.comparison? (r : IndexRequest) : Option Comparison :=
  (Comparison.ofName? r.comparisonName).filter indexable.contains

/-- The type that compares the values of a request: the one it insists on, else that of the
property, else that of the computed property, else the one it names, else `any`. Members are looked
up in the schema of the model first and then in that of its base. -/
def IndexRequest.resolve {σ : Type} (r : IndexRequest) (own base : Schema σ) :
    Except Problem ScalarType :=
  let property := own.properties.get? r.property <|> base.properties.get? r.property
  let computed := own.computed.get? r.property <|> base.computed.get? r.property
  if property.isNone && computed.isNone then .error (.indexProperty r.property)
  else match r.type <|> property.map Property.type <|> computed.bind Computed.type with
    | some t => .ok t
    | none => match r.typeName with
      | none => .ok .any
      | some name => match ScalarType.ofName? name with
        | some t => .ok t
        | none => .error (.indexType name r.property)

/-! ## Collecting and inheriting -/

structure Collecting where
  seen : List (String × Comparison) := []
  definitions : List IndexDefinition := []
  problems : List Problem := []

/-- Make a definition of a request. -/
def Collecting.add {σ : Type} (own base : Schema σ) (c : Collecting) (r : IndexRequest) :
    Collecting :=
  match r.comparison? with
  | none => { c with problems := c.problems ++ [.indexComparison r.comparisonName r.property] }
  | some comparison =>
    if c.seen.contains (r.property, comparison) then
      let key := IndexDefinition.keyOf r.property comparison
      { c with problems := c.problems ++ [.duplicateIndex key] }
    else
      let c := { c with seen := c.seen ++ [(r.property, comparison)] }
      match r.resolve own base with
      | .ok type =>
        let d : IndexDefinition :=
          { property := r.property, comparison, type, reducer := r.reducer }
        { c with definitions := c.definitions ++ [d] }
      | .error p => { c with problems := c.problems ++ [p] }

/-- The requests of a schema and its section of indices, and the problems with them. -/
def indexRequests {σ : Type} (own : Schema σ) (indices : List (String × IndexSpec)) :
    List IndexRequest × List Problem :=
  let inline := own.properties.entries.map fun (name, p) => match p.index with
    | some spec => inlineRequests name spec
    | none => ([], [])
  let declared := indices.map fun (key, spec) => sectionRequests key spec
  let all := inline ++ declared
  (all.flatMap (·.1), all.flatMap (·.2))

/-- The definitions of the indices that a schema declares itself, and the problems with them. -/
def collectIndices {σ : Type} (own : Schema σ) (indices : List (String × IndexSpec))
    (base : Schema σ) : List IndexDefinition × List Problem :=
  let (requests, problems) := indexRequests own indices
  let c := requests.foldl (Collecting.add own base) {}
  (c.definitions, problems ++ c.problems)

/-- The type of a property or typed computed property that a schema declares itself. -/
def redeclaredType? {σ : Type} (own : Schema σ) (property : String) : Option ScalarType :=
  match own.properties.get? property with
  | some p => some p.type
  | none => (own.computed.get? property).bind Computed.type

/-- Put a definition in the place of the one for the same property and comparison, or at the
end. -/
def overrideIndex (known : List IndexDefinition) (d : IndexDefinition) : List IndexDefinition :=
  match known with
  | [] => [d]
  | k :: rest => if k.isFor d.property d.comparison then d :: rest else k :: overrideIndex rest d

/-- The definitions of the indices of a model: those of its base, compared by the types that the
model gives to their properties, and its own ones. -/
def inheritIndices {σ : Type} (inherited own : List IndexDefinition) (schema : Schema σ) :
    List IndexDefinition :=
  let adapted := inherited.map fun d => match redeclaredType? schema d.property with
    | some type => { d with type }
    | none => d
  own.foldl overrideIndex adapted

end EntityStore
