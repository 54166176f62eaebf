import EntityStore.Proofs.Model
import EntityStore.Proofs.Schema.Apart
import EntityStore.Storage.Memory
import Mathlib.Data.List.Nodup

set_option autoImplicit false

/-! # Types of inherited indices

A model inherits the indices of its base. The values of an index are compared by a type that is
chosen where the index is declared (`IndexRequest.resolve`), and chosen anew by every model that
inherits the index and declares its member again (`inheritIndices`). `Model.type_of_index` tells
what comes out for a chain of models: the type that the declaration gets from the merged schema of
the last model, unless a model between them declares the member again and either the declaration
insists on a type or the member is a computed property without one. -/

namespace EntityStore

variable {σ W : Type}

/-! ## Requests -/

/-- What tells an index from the others of its model. -/
def IndexDefinition.place (d : IndexDefinition) : String × Comparison := (d.property, d.comparison)

namespace IndexRequest

/-- The index that a request asks for. -/
def place? (r : IndexRequest) : Option (String × Comparison) :=
  r.comparison?.map fun c => (r.property, c)

theorem property_of_place? {r : IndexRequest} {d : IndexDefinition}
    (h : r.place? = some d.place) : r.property = d.property := by
  obtain ⟨c, -, same⟩ := Option.map_eq_some_iff.1 h
  exact congrArg Prod.fst same

/-- The type that compares the values of a request for a model with a schema: the one it insists on,
else that of the property, else that of the computed property, else the one it names, else `any`. -/
def typeIn (r : IndexRequest) (s : Schema σ) : ScalarType :=
  (r.type <|> (s.properties.get? r.property).map Property.type <|>
    (s.computed.get? r.property).bind Computed.type <|>
    r.typeName.bind ScalarType.ofName?).getD .any

/-- The type that a request gets is that of the merged schema. -/
theorem eq_typeIn_of_resolve {r : IndexRequest} {own base : Schema σ} {t : ScalarType}
    (h : r.resolve own base = .ok t) : t = r.typeIn (base.merge own) := by
  unfold resolve at h
  unfold typeIn Schema.merge
  simp only [Section.get?_merge, Option.orElse_eq_orElse, Option.orElse_eq_or] at h ⊢
  generalize (own.properties.get? r.property).or (base.properties.get? r.property) = property at h ⊢
  generalize (own.computed.get? r.property).or (base.computed.get? r.property) = computed at h ⊢
  split at h
  · exact absurd h (by simp)
  have regroup (a b c d : Option ScalarType) : a.or (b.or (c.or d)) = (a.or (b.or c)).or d := by
    simp only [Option.or_assoc]
  rw [regroup]
  cases known : r.type.or ((property.map Property.type).or (computed.bind Computed.type)) with
  | some given =>
    rw [known] at h
    exact (Except.ok.inj h).symm
  | none =>
    rw [known] at h
    rw [Option.none_or]
    cases named : r.typeName with
    | none =>
      rw [named] at h
      exact (Except.ok.inj h).symm
    | some name =>
      rw [named] at h
      dsimp only at h
      split at h
      · next t' found =>
        rw [Option.bind_some, found]
        exact (Except.ok.inj h).symm
      · exact absurd h (by simp)

/-- Of a schema, a request reads no more than the type of its member. -/
theorem typeIn_eq (r : IndexRequest) (s : Schema σ) :
    r.typeIn s = (r.type <|> redeclaredType? s r.property <|>
      r.typeName.bind ScalarType.ofName?).getD .any := by
  unfold typeIn redeclaredType?
  cases s.properties.get? r.property <;> simp

end IndexRequest

/-- The request for an index among several. -/
def requestAt? (requests : List IndexRequest) (place : String × Comparison) : Option IndexRequest :=
  requests.find? fun r => r.place? = some place

/-! ## Collecting -/

/-- A definition stands for a request. -/
def IndexRequest.Gives (own base : Schema σ) (r : IndexRequest) (d : IndexDefinition) : Prop :=
  r.place? = some d.place ∧ r.resolve own base = .ok d.type ∧ d.reducer = r.reducer

namespace Collecting

variable {own base : Schema σ} {c : Collecting}

/-- What is added without a problem is one definition, at a new place. -/
theorem add_of_problems_eq_nil {r : IndexRequest} (h : (c.add own base r).problems = []) :
    c.problems = [] ∧ ∃ d, r.Gives own base d ∧ d.place ∉ c.seen ∧
      (c.add own base r).seen = c.seen ++ [d.place] ∧
      (c.add own base r).definitions = c.definitions ++ [d] := by
  unfold add at h ⊢
  split at h
  · exact absurd h (by simp)
  next comparison asked =>
  split at h
  · exact absurd h (by simp)
  next fresh =>
  dsimp only at h
  split at h
  · next t resolved =>
    refine ⟨h, ⟨r.property, comparison, t, r.reducer⟩, ⟨?_, resolved, rfl⟩, ?_, ?_⟩
    · rw [IndexRequest.place?, asked]
      rfl
    · simpa [IndexDefinition.place] using fresh
    · rw [if_neg fresh]
      exact ⟨rfl, rfl⟩
  · exact absurd h (by simp)

theorem foldl_of_problems_eq_nil {requests : List IndexRequest}
    (h : (requests.foldl (add own base) c).problems = []) :
    c.problems = [] ∧ ∃ ds, List.Forall₂ (IndexRequest.Gives own base) requests ds ∧
      (c.seen.Nodup → (c.seen ++ ds.map IndexDefinition.place).Nodup) ∧
      (requests.foldl (add own base) c).definitions = c.definitions ++ ds := by
  induction requests generalizing c with
  | nil => exact ⟨h, [], .nil, by simp, by simp⟩
  | cons r rest ih =>
    rw [List.foldl_cons] at h ⊢
    obtain ⟨clean, ds, gives, nodup, definitions⟩ := ih h
    obtain ⟨clean, d, given, fresh, seen, added⟩ := add_of_problems_eq_nil clean
    refine ⟨clean, d :: ds, .cons given gives, fun before => ?_, ?_⟩
    · rw [seen] at nodup
      simpa using nodup (List.nodup_append_comm.2 (List.nodup_cons.2 ⟨fresh, before⟩))
    · rw [definitions, added, List.append_assoc]
      rfl

end Collecting

/-- The definitions that are made without problems stand for the requests, one for each. -/
theorem collectIndices_definitions {own base : Schema σ} {indices : List (String × IndexSpec)}
    (h : (collectIndices own indices base).2 = []) :
    List.Forall₂ (IndexRequest.Gives own base) (indexRequests own indices).1
        (collectIndices own indices base).1 ∧
      ((collectIndices own indices base).1.map IndexDefinition.place).Nodup := by
  have clean : ((indexRequests own indices).1.foldl (Collecting.add own base) {}).problems = [] :=
    (List.append_eq_nil_iff.1 h).2
  obtain ⟨-, ds, gives, nodup, definitions⟩ := Collecting.foldl_of_problems_eq_nil clean
  rw [List.nil_append] at definitions
  unfold collectIndices
  dsimp only
  rw [definitions]
  exact ⟨gives, nodup List.nodup_nil⟩

/-- The request for which a definition stands is found at its place. -/
theorem requestAt?_of_mem {own base : Schema σ} {requests : List IndexRequest}
    {ds : List IndexDefinition} (gives : List.Forall₂ (IndexRequest.Gives own base) requests ds)
    (nodup : (ds.map IndexDefinition.place).Nodup) {d : IndexDefinition} (hd : d ∈ ds) :
    ∃ r, requestAt? requests d.place = some r ∧ r.Gives own base d := by
  induction gives with
  | nil => exact absurd hd (by simp)
  | @cons r e requests ds given rest ih =>
    rw [List.map_cons, List.nodup_cons] at nodup
    rcases List.mem_cons.1 hd with rfl | hd
    · exact ⟨r, by simp [requestAt?, given.1], given⟩
    · obtain ⟨q, found, gives⟩ := ih nodup.2 hd
      have other : e.place ≠ d.place := fun same => nodup.1 (same ▸ List.mem_map_of_mem hd)
      exact ⟨q, by simpa [requestAt?, given.1, other] using found, gives⟩

theorem requestAt?_eq_none {own base : Schema σ} {requests : List IndexRequest}
    {ds : List IndexDefinition} (gives : List.Forall₂ (IndexRequest.Gives own base) requests ds)
    {place : String × Comparison} (h : place ∉ ds.map IndexDefinition.place) :
    requestAt? requests place = none := by
  induction gives with
  | nil => rfl
  | @cons r e requests ds given rest ih =>
    rw [List.map_cons, List.mem_cons, not_or] at h
    have other : e.place ≠ place := Ne.symm h.1
    simpa [requestAt?, given.1, other] using ih h.2

/-! ## Inheriting -/

theorem IndexDefinition.isFor_iff {d e : IndexDefinition} :
    e.isFor d.property d.comparison = true ↔ e.place = d.place := by
  simp [isFor, place]

theorem map_overrideIndex (known : List IndexDefinition) (d : IndexDefinition) :
    (overrideIndex known d).map IndexDefinition.place =
      if d.place ∈ known.map IndexDefinition.place then known.map IndexDefinition.place
      else known.map IndexDefinition.place ++ [d.place] := by
  induction known with
  | nil => simp [overrideIndex]
  | cons k rest ih =>
    by_cases h : k.place = d.place
    · simp [overrideIndex, IndexDefinition.isFor_iff.2 h, h]
    · have differs : k.isFor d.property d.comparison = false := by
        simpa using mt IndexDefinition.isFor_iff.1 h
      simp only [overrideIndex, differs, Bool.false_eq_true, if_false, List.map_cons, ih,
        List.mem_cons, Ne.symm h, false_or]
      split <;> simp

theorem nodup_overrideIndex {known : List IndexDefinition}
    (h : (known.map IndexDefinition.place).Nodup) (d : IndexDefinition) :
    ((overrideIndex known d).map IndexDefinition.place).Nodup := by
  rw [map_overrideIndex]
  split
  · exact h
  · next fresh => exact List.nodup_append_comm.2 (List.nodup_cons.2 ⟨fresh, h⟩)

theorem mem_overrideIndex {known : List IndexDefinition}
    (nodup : (known.map IndexDefinition.place).Nodup) {d e : IndexDefinition}
    (h : e ∈ overrideIndex known d) : e = d ∨ e ∈ known ∧ e.place ≠ d.place := by
  induction known with
  | nil => exact .inl (by simpa [overrideIndex] using h)
  | cons k rest ih =>
    rw [List.map_cons, List.nodup_cons] at nodup
    unfold overrideIndex at h
    split at h
    · next same =>
      have same : k.place = d.place := IndexDefinition.isFor_iff.1 same
      rcases List.mem_cons.1 h with rfl | h
      · exact .inl rfl
      · exact .inr ⟨.tail _ h, fun eq => nodup.1 (same ▸ eq ▸ List.mem_map_of_mem h)⟩
    · next differs =>
      rcases List.mem_cons.1 h with rfl | h
      · exact .inr ⟨.head _, mt IndexDefinition.isFor_iff.2 differs⟩
      · exact (ih nodup.2 h).imp_right fun ⟨known, place⟩ => ⟨.tail _ known, place⟩

/-- An index of a model is one of its own or one that it inherits and does not declare. -/
theorem mem_foldl_overrideIndex {own known : List IndexDefinition}
    (nodup : (known.map IndexDefinition.place).Nodup) {e : IndexDefinition}
    (h : e ∈ own.foldl overrideIndex known) :
    e ∈ own ∨ e ∈ known ∧ e.place ∉ own.map IndexDefinition.place := by
  induction own generalizing known with
  | nil => exact .inr ⟨h, by simp⟩
  | cons d rest ih =>
    rcases ih (nodup_overrideIndex nodup d) h with declared | ⟨left, place⟩
    · exact .inl (.tail _ declared)
    · rcases mem_overrideIndex nodup left with rfl | ⟨before, differs⟩
      · exact .inl (.head _)
      · exact .inr ⟨before, by simpa using ⟨differs, by simpa using place⟩⟩

/-- An inherited index, compared by the type that a schema gives to its member. -/
def IndexDefinition.adapt (own : Schema σ) (d : IndexDefinition) : IndexDefinition :=
  { d with type := (redeclaredType? own d.property).getD d.type }

theorem inheritIndices_eq (inherited own : List IndexDefinition) (s : Schema σ) :
    inheritIndices inherited own s = own.foldl overrideIndex (inherited.map (·.adapt s)) := by
  unfold inheritIndices
  dsimp only
  congr 2
  funext d
  unfold IndexDefinition.adapt
  cases redeclaredType? s d.property <;> rfl

theorem map_adapt (own : Schema σ) (l : List IndexDefinition) :
    (l.map (·.adapt own)).map IndexDefinition.place = l.map IndexDefinition.place := by
  rw [List.map_map]
  rfl

theorem nodup_inheritIndices {inherited : List IndexDefinition}
    (h : (inherited.map IndexDefinition.place).Nodup) (own : List IndexDefinition)
    (s : Schema σ) : ((inheritIndices inherited own s).map IndexDefinition.place).Nodup := by
  rw [inheritIndices_eq]
  exact foldl_keeps (P := fun l : List IndexDefinition => (l.map IndexDefinition.place).Nodup)
    (fun _ d h => nodup_overrideIndex h d) own (by rwa [map_adapt])

theorem mem_inheritIndices {inherited own : List IndexDefinition} {s : Schema σ}
    (nodup : (inherited.map IndexDefinition.place).Nodup) {e : IndexDefinition}
    (h : e ∈ inheritIndices inherited own s) :
    e ∈ own ∨ ∃ d ∈ inherited, e = d.adapt s ∧ d.place ∉ own.map IndexDefinition.place := by
  rw [inheritIndices_eq] at h
  rcases mem_foldl_overrideIndex (by rwa [map_adapt]) h with declared | ⟨adapted, place⟩
  · exact .inl declared
  · obtain ⟨d, hd, rfl⟩ := List.mem_map.1 adapted
    exact .inr ⟨d, hd, rfl, place⟩

/-! ## Chains of models -/

/-- What a model of a chain declares itself. -/
structure Level (σ : Type) where
  /-- The members. -/
  own : Schema σ
  /-- The indices. -/
  requests : List IndexRequest

namespace Level

/-- What a draft declares for a model with a base. -/
def ofDraft (name : String) (draft : Draft σ) (base : Model σ W) : Level σ :=
  let own := (draft.normalize name base.schema (!base.isRoot)).1
  { own, requests := (indexRequests own draft.indices).1 }

/-- The request for an index. -/
def request? (l : Level σ) (place : String × Comparison) : Option IndexRequest :=
  requestAt? l.requests place

/-- A property or computed property is declared. -/
def Declares (l : Level σ) (property : String) : Prop :=
  l.own.properties.contains property = true ∨ l.own.computed.contains property = true

/-- The schema of all levels together, the first one being the most derived. -/
def merged : List (Level σ) → Schema σ
  | [] => {}
  | l :: below => (merged below).merge l.own

end Level

/-- A schema that gives a type to each member it declares tells the types before its base does. -/
theorem redeclaredType?_merge {base own : Schema σ} (apart : (base.merge own).Apart)
    {property : String}
    (typed : own.properties.contains property = true ∨ own.computed.contains property = true →
      redeclaredType? own property ≠ none) :
    redeclaredType? (base.merge own) property =
      (redeclaredType? own property).or (redeclaredType? base property) := by
  have apart := apart property
  unfold redeclaredType? at typed ⊢
  simp only [Schema.merge, Section.contains_merge, Section.get?_merge] at apart ⊢
  cases declared : own.properties.get? property with
  | some p => simp
  | none =>
    cases computed : own.computed.get? property with
    | none => simp
    | some c =>
      -- A property of the base would not be apart from this one.
      have unknown : base.properties.get? property = none := by
        by_contra known
        have known := Option.isSome_iff_ne_none.2 known
        simp [Section.contains, computed, known] at apart
      have given := typed (.inr (by simp [Section.contains, computed]))
      rw [declared, computed] at given
      simp only [Option.bind_some] at given
      obtain ⟨t, ht⟩ := Option.ne_none_iff_exists'.1 given
      simp [unknown, ht]

namespace Model

/-- A model and what it and the models from which it inherits declare, the root excepted. -/
inductive Chain : List (Level σ) → Model σ W → Prop
  | root (context : ModelContext W) : Chain [] (.root context)
  | compile {levels : List (Level σ)} {base m : Model σ W} (context : ModelContext W) (handle : Nat)
      (name : String) (draft : Draft σ) (adapter : Option (Adapter W))
      (before : Chain levels base)
      (ok : compile context handle name draft base adapter = .ok m) :
      Chain (.ofDraft name draft base :: levels) m

/-- An index is compared by the type that it gets where it is declared, or by that of its member
where a model that inherits it was the last one to give the member a type. -/
def Origin (levels : List (Level σ)) (d : IndexDefinition) : Prop :=
  ∃ inheriting declaring below r, levels = inheriting ++ declaring :: below ∧
    (∀ l ∈ inheriting, l.request? d.place = none) ∧ declaring.request? d.place = some r ∧
    r.property = d.property ∧
    d.type = (inheriting.findSome? fun l => redeclaredType? l.own d.property).getD
      (r.typeIn (Level.merged (declaring :: below)))

/-- What holds of all models of a chain. -/
structure Chain.Sound (levels : List (Level σ)) (m : Model σ W) : Prop where
  /-- The schema is that of all levels. -/
  schema_eq : m.schema = Level.merged levels
  /-- In all schemas of the chain, properties and computed properties have different names. -/
  apart : ∀ above below, levels = above ++ below → (Level.merged below).Apart
  /-- No two indices are at one place. -/
  nodup : (m.indices.map IndexDefinition.place).Nodup
  /-- All indices have been declared at some level. -/
  origin : ∀ d ∈ m.indices, Origin levels d

/-- An index that is inherited without being declared again keeps its origin. -/
theorem Origin.adapt {levels : List (Level σ)} {d : IndexDefinition} (h : Origin levels d)
    {l : Level σ} (none : l.request? d.place = none) : Origin (l :: levels) (d.adapt l.own) := by
  obtain ⟨inheriting, declaring, below, r, rfl, unasked, asked, property, type⟩ := h
  refine ⟨l :: inheriting, declaring, below, r, rfl, ?_, asked, property, ?_⟩
  · exact List.forall_mem_cons.2 ⟨none, unasked⟩
  · rw [List.findSome?_cons]
    unfold IndexDefinition.adapt
    dsimp only
    cases redeclaredType? l.own d.property with
    | some t => rfl
    | none => exact type

theorem Chain.sound {levels : List (Level σ)} {m : Model σ W} (h : Chain levels m) :
    Chain.Sound levels m := by
  induction h with
  | root context =>
    refine ⟨rfl, fun above below h => ?_, List.nodup_nil, fun d hd => absurd hd List.not_mem_nil⟩
    obtain ⟨rfl, rfl⟩ := List.append_eq_nil_iff.1 h.symm
    exact fun _ hn => absurd hn Bool.false_ne_true
  | @compile levels base m context handle name draft adapter before ok ih =>
    obtain ⟨-, clean, rfl⟩ := compile_eq_ok ok
    obtain ⟨gives, distinct⟩ := collectIndices_definitions clean
    have merged : base.schema.merge (draft.normalize name base.schema (!base.isRoot)).1 =
        Level.merged (.ofDraft name draft base :: levels) := by
      rw [Level.merged, ← ih.schema_eq, Level.ofDraft]
    refine ⟨merged, ?_, nodup_inheritIndices ih.nodup _ _, fun d hd => ?_⟩
    · rintro (_ | ⟨l, above⟩) below h
      · rw [← show _ = below from h, ← merged]
        exact draft.apart_normalize name (ih.schema_eq ▸ ih.apart [] levels rfl) _
      · exact ih.apart above below (List.cons.inj h).2
    · rcases mem_inheritIndices ih.nodup hd with declared | ⟨d, inherited, rfl, unasked⟩
      · obtain ⟨r, asked, place, resolved, -⟩ := requestAt?_of_mem gives distinct declared
        refine ⟨[], .ofDraft name draft base, levels, r, rfl, by simp, asked,
          r.property_of_place? place, ?_⟩
        rw [← merged]
        exact r.eq_typeIn_of_resolve resolved
      · exact (ih.origin d inherited).adapt (requestAt?_eq_none gives unasked)

/-- Where each of several levels that declares a member gives it a type, the levels tell its type
before those below them do. -/
theorem redeclaredType?_merged {inheriting below : List (Level σ)} {property : String}
    (apart : ∀ above rest, inheriting ++ below = above ++ rest → (Level.merged rest).Apart)
    (typed : ∀ l ∈ inheriting, l.Declares property → redeclaredType? l.own property ≠ none) :
    redeclaredType? (Level.merged (inheriting ++ below)) property =
      (inheriting.findSome? fun l => redeclaredType? l.own property).or
        (redeclaredType? (Level.merged below) property) := by
  induction inheriting with
  | nil => rfl
  | cons l rest ih =>
    obtain ⟨here, there⟩ := List.forall_mem_cons.1 typed
    have lower := ih (fun above rest eq => apart (l :: above) rest (congrArg (l :: ·) eq)) there
    have merged := redeclaredType?_merge (apart [] (l :: (rest ++ below)) rfl) here
    rw [List.cons_append, Level.merged, merged, lower, List.findSome?_cons]
    cases redeclaredType? l.own property <;> simp

/-- The type of each index of a model, for every chain of models. A level of the chain declares the
index, and the levels above it inherit it without declaring it again. The type is that of the member
at the last of these levels which gives it one, if there is one, and else the one that the
declaration gets from the schema merged up to its own level. So it is the one that the declaration
gets from the merged schema of the model, if each level above that declares the member again gives
it a type, and the declaration insists on none. -/
theorem type_of_index {levels : List (Level σ)} {m : Model σ W} (chain : Chain levels m)
    {d : IndexDefinition} (hd : d ∈ m.indices) :
    ∃ inheriting declaring below r, levels = inheriting ++ declaring :: below ∧
      (∀ l ∈ inheriting, l.request? d.place = none) ∧ declaring.request? d.place = some r ∧
      d.type = (inheriting.findSome? fun l => redeclaredType? l.own d.property).getD
        (r.typeIn (Level.merged (declaring :: below))) ∧
      ((∀ l ∈ inheriting, l.Declares d.property →
          r.type = none ∧ redeclaredType? l.own d.property ≠ none) →
        d.type = r.typeIn m.schema) := by
  obtain ⟨schema, apart, -, origin⟩ := chain.sound
  obtain ⟨inheriting, declaring, below, r, rfl, unasked, asked, property, type⟩ := origin d hd
  refine ⟨inheriting, declaring, below, r, rfl, unasked, asked, type, fun typed => ?_⟩
  have merged := redeclaredType?_merged apart fun l hl again => (typed l hl again).2
  rw [type, schema, r.typeIn_eq, r.typeIn_eq, property, merged]
  cases last : inheriting.findSome? fun l => redeclaredType? l.own d.property with
  | none => simp
  | some t =>
    -- The level that gives this type declares the member, so the declaration insists on none.
    obtain ⟨l, hl, given⟩ := List.exists_of_findSome?_eq_some last
    have again : l.Declares d.property := by
      unfold redeclaredType? at given
      split at given
      · next p declared => exact .inl (by simp [Section.contains, declared])
      · next =>
        obtain ⟨c, declared, -⟩ := Option.bind_eq_some_iff.1 given
        exact .inr (by simp [Section.contains, declared])
    simp [(typed l hl again).1]

/-! A box and a crate. The index on the rank of a box insists on `any`; that on its size names
`number`, which is not needed while the size has a type of its own. A crate declares both members
again, the size without a type. -/

/-- The size of a box is its rank. -/
def boxSize : ComputedCode := { ComputedCode.silent with read := fun bag => bag.get? "rank" }

/-- Boxes and crates are kept in memory. -/
def boxContext : ModelContext Memory := { adapter := Memory.adapter 1 true }

/-- A box has a rank and a size, and an index on each of them. -/
def boxDraft : Draft Unit :=
  { properties := [("rank", {})]
    computed := [("size:integer", { code := some boxSize })]
    indices := [("rank", .details { type := some .any }),
      ("size", .details { typeName := some "number" })] }

/-- The model of boxes. -/
def boxModel : Model Unit Memory :=
  (Model.compile boxContext 1 "Box" boxDraft (.root boxContext) none).toOption.get
    (by decide +kernel)

/-- The rank of a crate is an integer, and its size is of no type. -/
def crateDraft : Draft Unit :=
  { properties := [("rank", { typeName := "integer" })]
    computed := [("size", { code := some boxSize })] }

/-- The model of crates, which inherits from that of boxes. -/
def crateModel : Model Unit Memory :=
  (Model.compile boxContext 2 "Crate" crateDraft boxModel none).toOption.get (by decide +kernel)

/-- What crates and boxes declare. -/
def crateLevels : List (Level Unit) :=
  [.ofDraft "Crate" crateDraft boxModel,
    .ofDraft "Box" boxDraft (.root boxContext : Model Unit Memory)]

theorem crateModel_chain : crateModel.Chain crateLevels :=
  .compile boxContext 2 "Crate" crateDraft none
    (.compile boxContext 1 "Box" boxDraft none (.root boxContext) (Except.eq_ok_get _ _))
    (Except.eq_ok_get _ _)

/-- The index of crates on their size. -/
def crateSizeIndex : IndexDefinition :=
  crateModel.indices.get ⟨1, by decide +kernel⟩

theorem type_of_index_crateSize :
    ∃ inheriting declaring below r, crateLevels = inheriting ++ declaring :: below ∧
      declaring.request? crateSizeIndex.place = some r ∧
      crateSizeIndex.type = (inheriting.findSome? fun l =>
        redeclaredType? l.own crateSizeIndex.property).getD
          (r.typeIn (Level.merged (declaring :: below))) := by
  obtain ⟨inheriting, declaring, below, r, levels, -, asked, type, -⟩ :=
    type_of_index crateModel_chain (d := crateSizeIndex) (List.get_mem _ _)
  exact ⟨inheriting, declaring, below, r, levels, asked, type⟩

/-- Neither index of crates is compared by the type that its declaration gets from the merged
schema: an inherited declaration does not keep the type on which it insists, and a type that a
computed property had is still used where the property is declared again without one. -/
theorem index_types_not_merged :
    crateModel.Chain crateLevels ∧
      crateModel.indices.map (fun d => (d.property, d.type)) =
        [("rank", .integer), ("size", .integer)] ∧
      (crateModel.indices.map fun d => (crateLevels.findSome? (·.request? d.place)).map
        (·.typeIn crateModel.schema)) = [some .any, some .number] :=
  ⟨crateModel_chain, by decide +kernel, by decide +kernel⟩

end Model

end EntityStore
