import EntityStore.Proofs.Schema.Declared
import EntityStore.Proofs.Tally

set_option autoImplicit false

/-! # The drafts that are accepted

A draft is accepted if its normal form is reached without a problem. Here that is said without the
normal form: `Draft.WellFormed` lists what an author has to keep to, section by section, and
`Draft.normalize_accepts` says that the drafts without problems are exactly those. What such a draft
declares is in its normal form, entry by entry and in the order in which it is written
(`Draft.Lists`).

A step of the normalisation finds what is wrong with its entry alone, and whether the key of the
entry is taken (`Tally.Step`): for members the key is their name, which all three sections share,
for code it is the event. -/

namespace EntityStore

variable {σ : Type}

/-! ## Declarations that are sound -/

namespace Property

/-- The definition after the check by its type, and what the check found. -/
def checked [Pattern.Reader] (p : Property) : Property × List Property.Fault :=
  p.type.checkDefinition { p with typeName := p.type.name }

/-- The default in the form of the values of the property. -/
def normalDefault? [Pattern.Reader] (p : Property) : Option Value :=
  p.default.map (p.type.coerce p.checked.1 none)

/-- The type exists, its check finds no fault, and the default has the form of a value. -/
structure IsSound [Pattern.Reader] (p : Property) : Prop where
  /-- The type exists. -/
  known : (ScalarType.ofName? p.typeName).isSome = true
  /-- Its check finds no fault. -/
  faultless : p.checked.2 = []
  /-- The default has the form of a value. -/
  default : ∀ v, p.normalDefault? = some v → v.isInvalid = false

/-- The definition in normal form: a default that amounts to no value is none. -/
def normal [Pattern.Reader] (p : Property) : Property :=
  { p.checked.1 with default := p.normalDefault?.filter fun v => !v.isInvalid && !v.isNull }

end Property

theorem ScalarType.checkDefinition_default [Pattern.Reader] (t : ScalarType) (p : Property) :
    (t.checkDefinition p).1.default = p.default := by
  cases t <;> rfl

theorem Property.checked_default [Pattern.Reader] (p : Property) :
    p.checked.1.default = p.default := by
  rw [checked, ScalarType.checkDefinition_default]

theorem Property.type_of_ofName? {p : Property} {t : ScalarType}
    (h : ScalarType.ofName? p.typeName = some t) : p.type = t := by
  rw [type, h, Option.getD_some]

theorem normalDefault_eq [Pattern.Reader] (name : String) (p : Property) :
    (normalDefault name p.type p.checked.1).1 =
        p.normalDefault?.filter (fun v => !v.isInvalid && !v.isNull) ∧
      ((normalDefault name p.type p.checked.1).2 = [] ↔
        ∀ v, p.normalDefault? = some v → v.isInvalid = false) := by
  unfold normalDefault Property.normalDefault?
  rw [p.checked_default]
  cases p.default with
  | none => simp
  | some v =>
    simp only [Option.map_some]
    cases invalid : (p.type.coerce p.checked.1 none v).isInvalid <;>
      cases null : (p.type.coerce p.checked.1 none v).isNull <;>
      simp [Option.filter, invalid, null]

theorem normalProperty_fst [Pattern.Reader] (name : String) (p : Property) :
    (normalProperty name p).1 = (ScalarType.ofName? p.typeName).map fun _ => p.normal := by
  unfold normalProperty
  split
  · next unknown => rw [unknown, Option.map_none]
  · next t known =>
    obtain rfl := Property.type_of_ofName? known
    rw [known, Option.map_some, Property.normal, ← (normalDefault_eq name p).1, Property.checked]

theorem normalProperty_clean_iff [Pattern.Reader] (name : String) (p : Property) :
    (normalProperty name p).2 = [] ↔ p.IsSound := by
  unfold normalProperty
  split
  · next unknown =>
    refine iff_of_false (List.cons_ne_nil _ _) fun sound => ?_
    simpa [unknown] using sound.known
  · next t known =>
    obtain rfl := Property.type_of_ofName? known
    rw [List.append_eq_nil_iff, List.map_eq_nil_iff]
    constructor
    · rintro ⟨faultless, default⟩
      exact ⟨by rw [known]; rfl, faultless, (normalDefault_eq name p).2.1 default⟩
    · rintro ⟨-, faultless, default⟩
      exact ⟨faultless, (normalDefault_eq name p).2.2 default⟩

/-- There is code, and the type exists if one is given: apart from the key, or else in it, where
blanks stand for no type. -/
structure ComputedDraft.IsSound (key : String) (c : ComputedDraft) : Prop where
  /-- There is code. -/
  coded : c.code.isSome = true
  /-- The type given apart exists. -/
  apart : ∀ t, c.typeName = some t → (ScalarType.ofName? t).isSome = true
  /-- The type in the key exists, unless one is given apart. -/
  embedded : ∀ t, c.typeName = none → (splitKey key).2 = some t → t ≠ "" →
    (ScalarType.ofName? t).isSome = true

/-- The computed property in normal form. -/
def ComputedDraft.normal (key : String) (c : ComputedDraft) : Computed :=
  { code := c.code.getD .silent
    type := (computedTypeName? c (splitKey key).2).bind ScalarType.ofName? }

theorem computedTypeName?_eq_some_iff {c : ComputedDraft} {embedded : Option String} {t : String} :
    computedTypeName? c embedded = some t ↔
      c.typeName = some t ∨ c.typeName = none ∧ embedded = some t ∧ t ≠ "" := by
  cases apart : c.typeName <;> simp [computedTypeName?, apart, Option.filter_eq_some_iff]

theorem normalComputed_clean_iff (key : String) (c : ComputedDraft) :
    (normalComputed key c).2.2 = [] ↔ c.IsSound key := by
  have typed : c.IsSound key ↔ c.code.isSome = true ∧
      ∀ t, computedTypeName? c (splitKey key).2 = some t →
        (ScalarType.ofName? t).isSome = true := by
    simp only [computedTypeName?_eq_some_iff]
    constructor
    · rintro ⟨coded, apart, embedded⟩
      refine ⟨coded, fun t given => ?_⟩
      rcases given with h | ⟨none, h, blank⟩
      · exact apart t h
      · exact embedded t none h blank
    · rintro ⟨coded, resolved⟩
      exact ⟨coded, fun t h => resolved t (.inl h), fun t none h blank =>
        resolved t (.inr ⟨none, h, blank⟩)⟩
  rw [typed]
  unfold normalComputed
  dsimp only
  rw [List.append_eq_nil_iff, and_comm]
  refine and_congr (by cases c.code <;> simp) ?_
  cases given : computedTypeName? c (splitKey key).2 with
  | none => simp
  | some t => cases known : ScalarType.ofName? t <;> simp [known]

/-- A name that the base lets a member of a kind have. -/
structure Schema.Allows (base : Schema σ) (kind : MemberKind) (name : String) : Prop
    extends IsMemberName name where
  /-- If it is that of a member of the base, then of one of the same kind. -/
  inherited : base.kindOf? name = none ∨ base.kindOf? name = some kind

/-- An option other than the policy for unsaved changes, or the name of a policy, or nothing. -/
def IsOption (e : String × Json) : Prop :=
  e.1 = "onUnsaved" → e.2 = .null ∨ ∃ text policy,
    e.2 = .string text ∧ UnsavedPolicy.ofName? text = some policy

namespace Draft

/-- The names of the members of a kind, in the order in which they are written. -/
def namesOf (d : Draft σ) : MemberKind → List String
  | .property => d.properties.map (·.1)
  | .computed => d.computed.map fun e => (splitKey e.1).1
  | .method => d.methods.map (·.1)

/-- Something is true of the names of all members if it is true in each of the sections. -/
theorem forall_namesOf_iff {d : Draft σ} {P : MemberKind → String → Prop} :
    (∀ kind, ∀ name ∈ d.namesOf kind, P kind name) ↔
      (∀ e ∈ d.properties, P .property e.1) ∧
        (∀ e ∈ d.computed, P .computed (splitKey e.1).1) ∧ ∀ e ∈ d.methods, P .method e.1 := by
  have sections : (∀ kind, ∀ name ∈ d.namesOf kind, P kind name) ↔
      (∀ name ∈ d.namesOf .property, P .property name) ∧
        (∀ name ∈ d.namesOf .computed, P .computed name) ∧
          ∀ name ∈ d.namesOf .method, P .method name :=
    ⟨fun h => ⟨h _, h _, h _⟩, fun ⟨p, c, m⟩ kind => by cases kind <;> assumption⟩
  rw [sections]
  simp only [namesOf, List.forall_mem_map]

/-- What an author has to keep to. -/
structure WellFormed [Pattern.Reader] (d : Draft σ) (base : Schema σ) (isDerived : Bool) :
    Prop where
  /-- The document could be read. -/
  readable : d.problems = []
  /-- A model without a base has properties. -/
  nonempty : isDerived = true ∨ d.properties ≠ []
  /-- Properties make sense. -/
  property : ∀ e ∈ d.properties, e.2.IsSound
  /-- So do computed properties. -/
  computed : ∀ e ∈ d.computed, e.2.IsSound e.1
  /-- Methods have code. -/
  method : ∀ e ∈ d.methods, e.2.isSome = true
  /-- Members have names that they may have. -/
  allowed : ∀ kind, ∀ name ∈ d.namesOf kind, base.Allows kind name
  /-- No two members have one name. -/
  apart : (d.namesOf .property ++ d.namesOf .computed ++ d.namesOf .method).Nodup
  /-- Code is for an event, and there is code. -/
  hook : ∀ e ∈ d.hooks, (LifecycleEvent.ofName? e.1).isSome = true ∧ e.2.isSome = true
  /-- No event is named twice. -/
  once : (d.hooks.map fun e => LifecycleEvent.ofName? e.1).Nodup
  /-- The policy for unsaved changes is one that exists. -/
  option : ∀ e ∈ d.options, IsOption e

end Draft

/-! ## Names -/

theorem head?_ne_of_isIdentifier {name : String} (h : isIdentifier name = true) :
    name.toList.head? ≠ some '$' := by
  unfold isIdentifier at h
  cases chars : name.toList with
  | nil => simp
  | cons c rest =>
    rw [chars] at h
    rintro ⟨rfl⟩
    exact absurd h (by simp)

theorem nameFault?_eq_none_iff {base : Schema σ} {seen : Names} {kind : MemberKind}
    {name : String} : nameFault? base seen kind name = none ↔
      base.Allows kind name ∧ seen.contains name = false := by
  constructor
  · intro fine
    obtain ⟨allowed, fresh, inherited⟩ := nameFault?_eq_none fine
    exact ⟨⟨allowed, inherited⟩, fresh⟩
  · rintro ⟨⟨⟨identifier, free, plain⟩, inherited⟩, fresh⟩
    have noDollar := head?_ne_of_isIdentifier identifier
    rcases inherited with unknown | known
    · simp [nameFault?, noDollar, identifier, free, plain, fresh, unknown]
    · simp [nameFault?, noDollar, identifier, free, plain, fresh, known]

/-- In a base that is well named, a member can have a name that no member of another kind has. -/
theorem Schema.WellNamed.allows_iff {base : Schema σ} (h : base.WellNamed) {kind : MemberKind}
    {name : String} : base.Allows kind name ↔
      IsMemberName name ∧ ∀ other, base.declares other name = true → other = kind := by
  constructor
  · rintro ⟨plain, inherited⟩
    refine ⟨plain, fun other declared => ?_⟩
    rcases inherited with unknown | known
    · exact absurd unknown (kindOf?_ne_none declared)
    · exact h.single other kind name declared (declares_of_kindOf? known)
  · rintro ⟨plain, only⟩
    refine ⟨plain, ?_⟩
    cases known : base.kindOf? name with
    | none => exact .inl rfl
    | some other => exact .inr (by rw [only other (declares_of_kindOf? known)])

/-- A key without a colon is a name. A key with colons is cut at the first one. -/
theorem splitKey_of_notMem {name : String} (plain : ':' ∉ name.toList) (type : String) :
    splitKey name = (Text.trim name, none) ∧
      splitKey (name ++ ":" ++ type) = (Text.trim name, some (Text.trim type)) := by
  have stays : ∀ c ∈ name.toList, (c != ':') = true := fun c hc => by
    simpa using ne_of_mem_of_not_mem hc plain
  have chars : (name ++ ":" ++ type).toList = name.toList ++ ':' :: type.toList := by
    simp [String.toList_append]
  unfold splitKey
  rw [chars, ← List.append_nil name.toList]
  simp only [List.append_assoc, List.nil_append, List.takeWhile_append_of_pos stays,
    List.dropWhile_append_of_pos stays]
  simp [Text.trim]

/-! ## One entry after the other -/

namespace Normalizing

variable {base : Schema σ} {n : Normalizing σ}

theorem report_eq_nil_iff {problems : List Problem} :
    (n.report problems).problems = [] ↔ n.problems = [] ∧ problems = [] := List.append_eq_nil_iff

/-- A name has been seen. -/
def Seen (n : Normalizing σ) (name : String) : Prop := n.seen.contains name = true

theorem takeName_clean_iff {kind : MemberKind} {name : String}
    {declare : Normalizing σ → Normalizing σ} :
    (n.takeName base kind name declare).problems = [] ↔
      (declare { n with seen := n.seen.add name }).problems = [] ∧
        base.Allows kind name ∧ ¬ n.Seen name := by
  unfold takeName Seen
  rw [Bool.not_eq_true, ← nameFault?_eq_none_iff]
  dsimp only
  split
  · next fault found => simp [report, found]
  · next fine => simp [fine]

/-- Taking a name adds it to the names seen, and nothing else does. -/
theorem seen_takeName {kind : MemberKind} {name : String}
    {declare : Normalizing σ → Normalizing σ} (seen : ∀ m, (declare m).seen = m.seen)
    (other : String) :
    (n.takeName base kind name declare).Seen other ↔ n.Seen other ∨ other = name := by
  have added : (n.takeName base kind name declare).seen = n.seen.add name := by
    unfold takeName
    dsimp only
    split
    · rfl
    · exact seen _
  unfold Seen
  rw [added, Names.contains_add]
  simp [or_comm]

/-- A property of a type that exists takes its name; one of another type leaves a problem only. -/
theorem addProperty_eq [Pattern.Reader] (n : Normalizing σ) {e : String × Property} {t : ScalarType}
    (known : ScalarType.ofName? e.2.typeName = some t) :
    addProperty base n e = (n.report (normalProperty e.1 e.2).2).takeName base .property e.1
      fun n => { n with
        schema := { n.schema with properties := n.schema.properties.insert e.1 e.2.normal } } := by
  unfold addProperty
  dsimp only
  rw [normalProperty_fst, known]
  rfl

theorem addProperty_clean_iff [Pattern.Reader] (n : Normalizing σ) (e : String × Property) :
    (addProperty base n e).problems = [] ↔
      n.problems = [] ∧ (e.2.IsSound ∧ base.Allows .property e.1) ∧ ¬ n.Seen e.1 := by
  rw [← normalProperty_clean_iff e.1]
  cases known : ScalarType.ofName? e.2.typeName with
  | none =>
    unfold addProperty normalProperty
    rw [known]
    simp [report]
  | some t =>
    rw [addProperty_eq n known, takeName_clean_iff, and_assoc, ← and_assoc (a := n.problems = []),
      ← report_eq_nil_iff]
    rfl

theorem step_addProperty [Pattern.Reader] (base : Schema σ) :
    Tally.Step Normalizing.problems Seen (addProperty base)
    (fun e => e.2.IsSound ∧ base.Allows .property e.1) (·.1) where
  clean_iff := addProperty_clean_iff
  taken_iff n e clean name := by
    obtain ⟨-, ⟨sound, -⟩, -⟩ := (addProperty_clean_iff n e).1 clean
    obtain ⟨t, known⟩ := Option.isSome_iff_exists.1 sound.known
    rw [addProperty_eq n known]
    refine seen_takeName (n := n.report _) (fun _ => ?_) name
    rfl

theorem step_addComputed (base : Schema σ) : Tally.Step Normalizing.problems Seen (addComputed base)
    (fun e => e.2.IsSound e.1 ∧ base.Allows .computed (splitKey e.1).1)
    (fun e => (splitKey e.1).1) where
  clean_iff n e := by
    unfold addComputed
    dsimp only
    rw [takeName_clean_iff, ← normalComputed_clean_iff, and_assoc,
      ← and_assoc (a := n.problems = []), ← report_eq_nil_iff]
    rfl
  taken_iff n e _ := seen_takeName fun _ => rfl

theorem step_addMethod (base : Schema σ) : Tally.Step Normalizing.problems Seen (addMethod base)
    (fun e => e.2.isSome = true ∧ base.Allows .method e.1) (·.1) where
  clean_iff n e := by
    unfold addMethod
    rw [takeName_clean_iff]
    cases e.2 with
    | none => simp [report]
    | some code => simp
  taken_iff n e _ := seen_takeName fun m => by split <;> rfl

/-- There is code for an event, if it is one. -/
def Hooked (n : Normalizing σ) (event : Option LifecycleEvent) : Prop :=
  ∃ e, event = some e ∧ (n.schema.hooks e).isSome = true

theorem step_addHook : Tally.Step Normalizing.problems Hooked (addHook (σ := σ))
    (fun e => (LifecycleEvent.ofName? e.1).isSome = true ∧ e.2.isSome = true)
    (fun e => LifecycleEvent.ofName? e.1) where
  clean_iff n e := by
    unfold addHook Hooked
    cases LifecycleEvent.ofName? e.1 with
    | none => simp [report]
    | some event =>
      cases e.2 with
      | none => simp [report]
      | some code => cases n.schema.hooks event <;> simp [report]
  taken_iff n e clean event := by
    obtain ⟨-, hooked, code, known, -, -, schema⟩ := addHook_of_clean clean
    unfold Hooked
    rw [schema, known]
    unfold Schema.setHook
    constructor
    · rintro ⟨other, rfl, declared⟩
      by_cases same : other = hooked
      · exact .inr (by rw [same])
      · exact .inl ⟨other, rfl, by simpa [same] using declared⟩
    · rintro (⟨other, rfl, declared⟩ | rfl)
      · refine ⟨other, rfl, ?_⟩
        by_cases same : other = hooked <;> simp [same, declared]
      · exact ⟨hooked, rfl, by simp⟩

theorem addOption_clean_iff (n : Normalizing σ) (e : String × Json) :
    (addOption n e).problems = [] ↔ n.problems = [] ∧ IsOption e := by
  obtain ⟨name, j⟩ := e
  unfold addOption IsOption
  dsimp only
  by_cases policy : name = "onUnsaved"
  · rw [if_pos policy]
    cases j with
    | string text => cases known : UnsavedPolicy.ofName? text <;> simp [report, policy, known]
    | _ => simp [report, policy]
  · simp [policy]

theorem foldl_addOption_clean_iff (l : List (String × Json)) (n : Normalizing σ) :
    (l.foldl addOption n).problems = [] ↔ n.problems = [] ∧ ∀ e ∈ l, IsOption e := by
  induction l generalizing n with
  | nil => simp
  | cons e l ih => simp [ih, addOption_clean_iff, and_assoc]

/-- The members leave the code for events as it is. -/
theorem hooks_takeName {kind : MemberKind} {name : String}
    {declare : Normalizing σ → Normalizing σ}
    (kept : ∀ m, (declare m).schema.hooks = m.schema.hooks) :
    (n.takeName base kind name declare).schema.hooks = n.schema.hooks := by
  unfold takeName
  dsimp only
  split
  · rfl
  · exact kept _

theorem hooks_addProperty [Pattern.Reader] (e : String × Property) :
    (addProperty base n e).schema.hooks = n.schema.hooks := by
  unfold addProperty
  dsimp only
  split
  · rfl
  · exact hooks_takeName fun _ => rfl

theorem hooks_addComputed (e : String × ComputedDraft) :
    (addComputed base n e).schema.hooks = n.schema.hooks := by
  unfold addComputed
  exact hooks_takeName fun _ => rfl

theorem hooks_addMethod (e : String × Option (Method σ)) :
    (addMethod base n e).schema.hooks = n.schema.hooks :=
  hooks_takeName fun m => by split <;> rfl

theorem hooks_foldl {α : Type} {f : Normalizing σ → α → Normalizing σ}
    (kept : ∀ n a, (f n a).schema.hooks = n.schema.hooks) (l : List α) (n : Normalizing σ) :
    (l.foldl f n).schema.hooks = n.schema.hooks :=
  foldl_keeps (P := fun m : Normalizing σ => m.schema.hooks = n.schema.hooks)
    (fun m a same => (kept m a).trans same) l rfl

end Normalizing

/-! ## Entries in order -/

theorem Section.declareIn_of_notMem {α : Type} {name : String} (a : α) {l : List (String × α)}
    (fresh : name ∉ l.map (·.1)) : declareIn name a l = l ++ [(name, a)] := by
  induction l with
  | nil => rfl
  | cons e l ih =>
    obtain ⟨other, later⟩ := List.ne_and_not_mem_of_not_mem_cons fresh
    simp [declareIn, Ne.symm other, ih later]

/-- A new name is declared at the end. -/
theorem Section.entries_insert {α : Type} {s : Section α} {name : String} (a : α)
    (fresh : s.get? name = none) : (s.insert name a).entries = s.entries ++ [(name, a)] :=
  declareIn_of_notMem a (Entries.find?_eq_none_iff.1 fresh)

namespace Draft

/-- A schema has what a draft lists, and in each section of members the entries are in the order in
which they are written. -/
structure Lists [Pattern.Reader] (d : Draft σ) (s : Schema σ) : Prop extends d.Declares s where
  /-- The properties are those of the list, in normal form. -/
  properties : s.properties.entries = d.properties.map fun e => (e.1, e.2.normal)
  /-- So are the computed properties. -/
  computed : s.computed.entries =
    d.computed.map fun e => ((splitKey e.1).1, e.2.normal e.1)
  /-- So are the methods. -/
  methods : (s.methods.entries.map fun e => (e.1, some e.2)) = d.methods

theorem carries_lists [Pattern.Reader] {base : Schema σ} : Carries base Draft.Lists where
  start d := ⟨d.declares_bare, rfl, rfl, rfl⟩
  addProperty {d n} fits h e clean := by
    refine { h.addProperty fits clean with properties := ?_, computed := ?_, methods := ?_ } <;>
      obtain ⟨-, fresh, p, found, schema⟩ := Normalizing.addProperty_of_clean fits clean <;>
      rw [schema]
    · have normal : p = e.2.normal := by
        rw [normalProperty_fst, Option.map_eq_some_iff] at found
        obtain ⟨t, -, same⟩ := found
        exact same.symm
      rw [Section.entries_insert p fresh, h.properties, normal]
      simp [Draft.property]
    · exact h.computed
    · exact h.methods
  addComputed {d n} fits h e clean := by
    refine { h.addComputed fits clean with properties := ?_, computed := ?_, methods := ?_ } <;>
      obtain ⟨-, fresh, schema⟩ := Normalizing.addComputed_of_clean fits clean <;>
      rw [schema]
    · exact h.properties
    · rw [Section.entries_insert _ fresh, h.computed, Draft.computedProperty, List.map_append]
      rfl
    · exact h.methods
  addMethod {d n} fits h e clean := by
    refine { h.addMethod fits clean with properties := ?_, computed := ?_, methods := ?_ } <;>
      obtain ⟨-, fresh, code, given, schema⟩ := Normalizing.addMethod_of_clean fits clean <;>
      rw [schema]
    · exact h.properties
    · exact h.computed
    · rw [Section.entries_insert code fresh, List.map_append, h.methods, given]
      rfl
  addHook h e clean := by
    refine { h.addHook clean with properties := ?_, computed := ?_, methods := ?_ } <;>
      obtain ⟨-, event, code, -, -, -, schema⟩ := Normalizing.addHook_of_clean clean <;>
      rw [schema]
    · exact h.properties
    · exact h.computed
    · exact h.methods
  addOption h e clean := by
    refine { h.addOption clean with properties := ?_, computed := ?_, methods := ?_ } <;>
      rw [(Normalizing.addOption_of_clean clean).2]
    · exact h.properties
    · exact h.computed
    · exact h.methods

/-! ## Drafts that are accepted -/

open Normalizing in
theorem normalize_clean_iff [Pattern.Reader] (d : Draft σ) (model : String) (base : Schema σ)
    (isDerived : Bool) :
    (d.normalize model base isDerived).2 = [] ↔ d.WellFormed base isDerived := by
  unfold normalize
  dsimp only
  generalize hstart : ({ problems := _ } : Normalizing σ) = start
  have start : Tally Normalizing.problems Seen start
      (d.problems = [] ∧ (isDerived = true ∨ d.properties ≠ [])) [] := by
    subst hstart
    refine ⟨?_, fun _ name => by simp [Seen, Bag.contains]⟩
    cases isDerived <;> cases d.properties <;> simp
  -- The three sections of members share their names.
  have members := ((start.foldl (step_addProperty base) d.properties).foldl
    (step_addComputed base) d.computed).foldl
    (step_addMethod base) d.methods
  generalize hmembers : d.methods.foldl (addMethod base) _ = n at members
  -- There is no code for events before their section.
  have unhooked : n.schema.hooks = fun _ => none := by
    subst hmembers hstart
    rw [hooks_foldl fun _ e => hooks_addMethod e, hooks_foldl fun _ e => hooks_addComputed e,
      hooks_foldl fun _ e => hooks_addProperty e]
  have events : Tally Normalizing.problems Hooked n (n.problems = []) [] :=
    ⟨by simp, fun _ event => by simp [Hooked, unhooked]⟩
  rw [foldl_addOption_clean_iff, (events.foldl step_addHook d.hooks).clean_iff,
    members.clean_iff, List.nil_append, List.nil_append]
  constructor
  · rintro ⟨⟨⟨⟨⟨⟨⟨⟨readable, nonempty⟩, property⟩, computed⟩, method⟩, apart⟩, hook⟩, once⟩, option⟩
    exact ⟨readable, nonempty, fun e he => (property e he).1, fun e he => (computed e he).1,
      fun e he => (method e he).1, forall_namesOf_iff.2 ⟨fun e he => (property e he).2,
        fun e he => (computed e he).2, fun e he => (method e he).2⟩, apart, hook, once, option⟩
  · intro h
    obtain ⟨properties, computed, methods⟩ := forall_namesOf_iff.1 h.allowed
    exact ⟨⟨⟨⟨⟨⟨⟨⟨h.readable, h.nonempty⟩, fun e he => ⟨h.property e he, properties e he⟩⟩,
      fun e he => ⟨h.computed e he, computed e he⟩⟩, fun e he => ⟨h.method e he, methods e he⟩⟩,
      h.apart⟩, h.hook⟩, h.once⟩, h.option⟩

/-- The drafts without problems are those that are well-formed. What such a draft lists is in its
normal form, in order. Over a base that is well named, as those of all compiled models are, a member
can have the names that no member of another kind has there. The name of a computed property stands
before the first colon of its key. -/
theorem normalize_accepts [Pattern.Reader] (d : Draft σ) (model : String) (base : Schema σ)
    (isDerived : Bool) :
    ((d.normalize model base isDerived).2 = [] ↔ d.WellFormed base isDerived) ∧
      (d.WellFormed base isDerived → d.Lists (d.normalize model base isDerived).1) ∧
      (base.WellNamed → ∀ kind name, base.Allows kind name ↔
        IsMemberName name ∧ ∀ other, base.declares other name = true → other = kind) ∧
      ∀ name : String, ':' ∉ name.toList → ∀ type, splitKey name = (Text.trim name, none) ∧
        splitKey (name ++ ":" ++ type) = (Text.trim name, some (Text.trim type)) :=
  ⟨normalize_clean_iff d model base isDerived,
    fun h => carries_lists.normalize ((normalize_clean_iff d model base isDerived).2 h),
    fun h _ _ => h.allows_iff, fun _ plain => splitKey_of_notMem plain⟩

/-- Runners with their best times, and code that runs before they are saved. -/
def runnerDraft : Draft Unit where
  properties := [("name", { required := true }),
    ("best", { typeName := "Number", default := some (.string " 10.5 ") }),
    ("club", { default := some .null })]
  computed := [(" label : string", { code := some .silent }), ("rank:", { code := some .silent })]
  methods := [("train", some fun _ => .done .null)]
  hooks := [("onBeforeSave", some (.done ())), ("afterSave", some (.done ()))]
  options := [("onUnsaved", .string " Warn "), ("color", .string "red"), ("onUnsaved", .null)]

/-- The draft is well-formed; its defaults are values, and a default of `null` is none. -/
theorem normalize_accepts_runner :
    runnerDraft.WellFormed {} false ∧
      (runnerDraft.normalize "Runner" {} false).1.properties.entries.map
          (fun e => (e.1, e.2.typeName, e.2.default)) =
        [("name", "string", none), ("best", "number", some (.number ⟨0x4025000000000000⟩)),
          ("club", "string", none)] := by
  obtain ⟨accepted, lists, -, -⟩ := normalize_accepts runnerDraft "Runner" {} false
  have clean : (runnerDraft.normalize "Runner" {} false).2 = [] := by
    rw [← List.isEmpty_iff]
    decide +kernel
  refine ⟨accepted.1 clean, ?_⟩
  rw [(lists (accepted.1 clean)).properties]
  decide +kernel

end Draft

end EntityStore
