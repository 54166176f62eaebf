import EntityStore.Item
import EntityStore.Proofs.Model
import EntityStore.Proofs.Schema.Names
import EntityStore.Storage.Memory
import Mathlib.Data.List.Nodup

set_option autoImplicit false

/-! # Members and what their names stand for

The schema of every compiled model is well named (`Model.Compiled.wellNamed`): along a chain of
models each compilation merges a schema that fits over one that is well named. So the members of all
kinds and the code for events can be entered into one table by name without losing any of them
(`Accessor.get?_table`), and an exported item keeps all its properties beside its identity and the
computed properties (`Item.get?_toObject`). -/

namespace EntityStore

variable {σ W : Type}

/-! ## Names of members -/

@[simp]
theorem Section.mem_names_iff {α : Type} {s : Section α} {name : String} :
    name ∈ s.names ↔ s.contains name = true := by
  rw [mem_names, contains, Option.isSome_iff_exists]

namespace Schema

/-- The names of all members. -/
def memberNames (s : Schema σ) : List String :=
  s.properties.names ++ s.computed.names ++ s.methods.names

theorem mem_memberNames {s : Schema σ} {name : String} :
    name ∈ s.memberNames ↔ ∃ kind, s.declares kind name = true := by
  simp only [memberNames, List.mem_append, Section.mem_names_iff]
  constructor
  · rintro ((h | h) | h)
    · exact ⟨.property, h⟩
    · exact ⟨.computed, h⟩
    · exact ⟨.method, h⟩
  · rintro ⟨kind, h⟩
    cases kind with
    | property => exact .inl (.inl h)
    | computed => exact .inl (.inr h)
    | method => exact .inr h

/-- No two members have one name. -/
theorem WellNamed.nodup {s : Schema σ} (h : s.WellNamed) : s.memberNames.Nodup := by
  have differ (kind other : MemberKind) (apart : kind ≠ other) {a b : String}
      (ha : s.declares kind a = true) (hb : s.declares other b = true) : a ≠ b := by
    rintro rfl
    exact apart (h.single kind other a ha hb)
  unfold memberNames
  rw [List.nodup_append, List.nodup_append]
  refine ⟨⟨s.properties.nodup, s.computed.nodup, ?_⟩, s.methods.nodup, ?_⟩
  · intro a ha b hb
    exact differ .property .computed (by simp) (Section.mem_names_iff.1 ha)
      (Section.mem_names_iff.1 hb)
  · intro a ha b hb
    rcases List.mem_append.1 ha with ha | ha
    · exact differ .property .method (by simp) (Section.mem_names_iff.1 ha)
        (Section.mem_names_iff.1 hb)
    · exact differ .computed .method (by simp) (Section.mem_names_iff.1 ha)
        (Section.mem_names_iff.1 hb)

theorem WellNamed.isMemberName {s : Schema σ} (h : s.WellNamed) {name : String}
    (member : name ∈ s.memberNames) : IsMemberName name := by
  obtain ⟨kind, declared⟩ := mem_memberNames.1 member
  exact h.plain kind name declared

end Schema

/-- Along every chain of models names of members are apart, and are names that members may have. -/
theorem Model.Compiled.wellNamed {keyBase : String} {m : Model σ W} (h : m.Compiled keyBase) :
    m.schema.WellNamed := by
  induction h with
  | root context => exact Schema.wellNamed_empty
  | compile context handle name draft adapter before ok ih =>
    obtain ⟨-, -, rfl⟩ := compile_eq_ok ok
    exact ih.merge (draft.fits_normalize name _ _)

/-! ## The table of members -/

theorem Bag.perm_names_ofList {α : Type} {l : List (String × α)} (nodup : (l.map (·.1)).Nodup) :
    (ofList l).names.Perm (l.map (·.1)) := by
  rw [List.perm_ext_iff_of_nodup (names_nodup _) nodup]
  intro name
  rw [mem_names, get?_ofList nodup]
  constructor
  · rintro ⟨a, found⟩
    exact List.mem_map_of_mem (Entries.mem_of_find? found)
  · intro entered
    obtain ⟨e, he, rfl⟩ := List.mem_map.1 entered
    exact ⟨e.2, Entries.find?_of_mem nodup he⟩

/-- What a name stands for in a schema. -/
inductive Schema.Member (s : Schema σ) : String → Accessor σ → Prop
  | property {name : String} {p : Property} (declared : s.properties.get? name = some p) :
      Member s name (.property p)
  | computed {name : String} {c : Computed} (declared : s.computed.get? name = some c) :
      Member s name (.computed c)
  | method {name : String} {code : Method σ} (declared : s.methods.get? name = some code) :
      Member s name (.method code)
  /-- The name of an event stands for the event, if there is code for it. -/
  | hook {e : LifecycleEvent} (declared : (s.hooks e).isSome = true) : Member s e.name (.hook e)

namespace Accessor

/-- The members of a schema as they are entered into the table. -/
def listed (s : Schema σ) : List (String × Accessor σ) :=
  (s.properties.entries.map fun (name, p) => (name, .property p)) ++
  (s.computed.entries.map fun (name, c) => (name, .computed c)) ++
  (s.methods.entries.map fun (name, m) => (name, .method m)) ++
  (s.events.map fun e => (e.name, .hook e))

theorem table_eq (s : Schema σ) : table s = Bag.ofList (listed s) := rfl

theorem map_listed (s : Schema σ) :
    (listed s).map (·.1) = s.memberNames ++ s.events.map LifecycleEvent.name := by
  simp [listed, Schema.memberNames, Section.names, Function.comp_def]

theorem mem_listed {s : Schema σ} {name : String} {a : Accessor σ} :
    (name, a) ∈ listed s ↔ s.Member name a := by
  have entered {α : Type} (sec : Section α) (v : α) :
      (name, v) ∈ sec.entries ↔ sec.get? name = some v :=
    ⟨Entries.find?_of_mem sec.nodup, Entries.mem_of_find?⟩
  constructor
  · intro h
    simp only [listed, List.mem_append, List.mem_map, Prod.mk.injEq] at h
    rcases h with ((⟨⟨_, p⟩, he, rfl, rfl⟩ | ⟨⟨_, c⟩, he, rfl, rfl⟩) |
      ⟨⟨_, m⟩, he, rfl, rfl⟩) | ⟨e, he, rfl, rfl⟩
    · exact .property ((entered _ p).1 he)
    · exact .computed ((entered _ c).1 he)
    · exact .method ((entered _ m).1 he)
    · exact .hook (List.mem_filter.1 he).2
  · intro h
    cases h with
    | property declared => simp [listed, (entered _ _).2 declared]
    | computed declared => simp [listed, (entered _ _).2 declared]
    | method declared => simp [listed, (entered _ _).2 declared]
    | @hook e declared => simp [listed, Schema.events, e.mem_all, declared]

/-- Neither members nor events share a name. -/
theorem nodup_listed {s : Schema σ} (h : s.WellNamed) : ((listed s).map (·.1)).Nodup := by
  have injective : Function.Injective LifecycleEvent.name := by
    intro e e' same
    have found := LifecycleEvent.ofName?_name e
    rw [same, LifecycleEvent.ofName?_name] at found
    exact (Option.some.inj found).symm
  have events : s.events.Nodup := List.Nodup.filter _ (by decide)
  rw [map_listed, List.nodup_append]
  refine ⟨h.nodup, events.map injective, ?_⟩
  intro name hn other ho
  obtain ⟨e, -, rfl⟩ := List.mem_map.1 ho
  rintro rfl
  -- The name of a member is not that of an event.
  have plain := (h.isMemberName hn).plain
  rw [LifecycleEvent.ofName?_name] at plain
  exact absurd plain (by simp)

theorem get?_table {s : Schema σ} (h : s.WellNamed) (name : String) (a : Accessor σ) :
    (table s).get? name = some a ↔ s.Member name a := by
  rw [table_eq, Bag.get?_ofList (nodup_listed h), ← mem_listed]
  exact ⟨Entries.mem_of_find?, Entries.find?_of_mem (nodup_listed h)⟩

theorem perm_names_table {s : Schema σ} (h : s.WellNamed) :
    (table s).names.Perm (s.memberNames ++ s.events.map LifecycleEvent.name) := by
  rw [table_eq, ← map_listed]
  exact Bag.perm_names_ofList (nodup_listed h)

end Accessor

theorem Model.Compiled.accessors_eq {keyBase : String} {m : Model σ W} (h : m.Compiled keyBase) :
    m.accessors = Accessor.table m.schema := by
  cases h with
  | root context => rfl
  | compile context handle name draft adapter before ok =>
    obtain ⟨-, -, rfl⟩ := compile_eq_ok ok
    rfl

/-! ## Exported items -/

theorem Bag.get?_foldl_of_not_mem {α β : Type} {f : Bag α → String × β → Bag α} {name : String}
    (keeps : ∀ bag e, e.1 ≠ name → (f bag e).get? name = bag.get? name) {l : List (String × β)}
    (h : name ∉ l.map (·.1)) (bag : Bag α) : (l.foldl f bag).get? name = bag.get? name := by
  induction l generalizing bag with
  | nil => rfl
  | cons e rest ih =>
    rw [List.map_cons, List.mem_cons, not_or] at h
    rw [List.foldl_cons, ih h.2, keeps bag e (Ne.symm h.1)]

/-- Beside the identity and the computed properties, an exported item has what it had before. -/
theorem Item.get?_toObject (i : Item σ W) (stored : Bool) {name : String} (other : name ≠ "uuid")
    (plain : name ∉ i.model.schema.computed.names) : (i.toObject stored).get? name =
      (if stored then i.model.pipeline.serialize i.adapter.binary i.properties
        else i.properties).get? name := by
  unfold toObject
  dsimp only
  rw [Bag.get?_foldl_of_not_mem ?_ plain, Bag.get?_insert, if_neg other]
  -- A computed property is entered under its own name only.
  intro bag e differs
  split
  · rw [Bag.get?_insert, if_neg (Ne.symm differs)]
  · split
    · rw [Bag.get?_insert, if_neg (Ne.symm differs)]
    · rfl

/-! ## All models -/

/-- The namespace of every compiled model. No two of its members, properties, computed properties
and methods together, have one name; each name is an identifier, is not reserved, and is neither the
name nor the alias of an event. The table of members has one entry for each member and each event
with code, of the kind of the section that declares it. An exported item has all its properties. -/
theorem Model.namespace_of_members {keyBase : String} {m : Model σ W}
    (compiled : m.Compiled keyBase) :
    (m.schema.properties.names ++ m.schema.computed.names ++ m.schema.methods.names).Nodup ∧
    (∀ name ∈ m.schema.memberNames, isIdentifier name = true ∧
      name ∉ ["super", "prototype", "constructor", "uuid"] ∧
      LifecycleEvent.ofName? name = none) ∧
    m.accessors.names.Perm (m.schema.memberNames ++ m.schema.events.map LifecycleEvent.name) ∧
    (∀ name a, m.accessors.get? name = some a ↔ m.schema.Member name a) ∧
    ∀ (i : Item σ W) (stored : Bool) (name : String) (p : Property), i.model = m →
      m.schema.properties.get? name = some p →
      (i.toObject stored).get? name =
        if stored then
          some (p.type.serialize i.adapter.binary ((i.properties.get? name).getD .null))
        else i.properties.get? name := by
  have wellNamed := compiled.wellNamed
  refine ⟨wellNamed.nodup, ?_, ?_, ?_, ?_⟩
  · intro name member
    have allowed := wellNamed.isMemberName member
    exact ⟨allowed.identifier, allowed.free, allowed.plain⟩
  · rw [compiled.accessors_eq]
    exact Accessor.perm_names_table wellNamed
  · rw [compiled.accessors_eq]
    exact Accessor.get?_table wellNamed
  · rintro i stored name p rfl declared
    have property : i.model.schema.declares .property name = true := by
      simp [Schema.declares, Section.contains, declared]
    have other : name ≠ "uuid" := by
      rintro rfl
      exact (wellNamed.plain .property _ property).free (by decide)
    have plain : name ∉ i.model.schema.computed.names := by
      intro computed
      have same := wellNamed.single .property .computed name property
        (Section.mem_names_iff.1 computed)
      exact absurd same (by simp)
    rw [i.get?_toObject stored other plain]
    split
    · rw [compiled.coherent.pipeline_eq, Pipeline.get?_serialize, declared, Option.map_some]
    · rfl

/-! A badge is a card. The card has a title, a label that is computed from it, and code that runs
before it is saved; the badge has a method and declares the title again. -/

/-- Cards and badges are kept in memory. -/
def cardContext : ModelContext Memory := { adapter := Memory.adapter 1 true }

/-- A card has a title and the same text as its label. -/
def cardDraft : Draft Unit :=
  { properties := [("title", {})]
    computed := [("label:string",
      { code := some { ComputedCode.silent with read := fun bag => bag.get? "title" } })]
    hooks := [("onBeforeSave", some (Script.assign "title" (.string "card")))] }

/-- The model of cards. -/
def cardModel : Model Unit Memory :=
  (Model.compile cardContext 1 "Card" cardDraft (.root cardContext) none).toOption.get
    (by decide +kernel)

/-- A badge has a title in upper case, and a method that tells it. -/
def badgeDraft : Draft Unit :=
  { properties := [("title", { upperCase := true })]
    methods := [("tell", some fun _ => Script.read "title")] }

/-- The model of badges, which inherits from that of cards. -/
def badgeModel : Model Unit Memory :=
  (Model.compile cardContext 2 "Badge" badgeDraft cardModel none).toOption.get (by decide +kernel)

theorem badgeModel_compiled : badgeModel.Compiled "models" :=
  .compile cardContext 2 "Badge" badgeDraft none
    (.compile cardContext 1 "Card" cardDraft none (.root cardContext) (Except.eq_ok_get _ _))
    (Except.eq_ok_get _ _)

/-- Badges have three members, inherited or declared, and code for one event. -/
theorem namespace_of_members_badge :
    badgeModel.Compiled "models" ∧
      badgeModel.accessors.names.Perm ["title", "label", "tell", "beforeSave"] := by
  obtain ⟨-, -, table, -⟩ := Model.namespace_of_members badgeModel_compiled
  have listed : badgeModel.schema.memberNames ++ badgeModel.schema.events.map LifecycleEvent.name =
      ["title", "label", "tell", "beforeSave"] := by decide +kernel
  rw [listed] at table
  exact ⟨badgeModel_compiled, table⟩

end EntityStore
