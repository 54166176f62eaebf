import EntityStore.Proofs.Index.Listed
import EntityStore.Proofs.Tally
import EntityStore.Proofs.Text.Blank
import Mathlib.Data.List.Duplicate

set_option autoImplicit false

/-! # The declarations of indices that are accepted

An index can be declared with its property or in a section of its own, in seven shapes, of which
some are for one of the places only. `askedIndices` lists what is asked for in both places, and
`WellDeclared` says what has to hold for there to be an index for each of it: in the end, after all
spellings have been read, no two declarations may ask for the same comparison of the same property.
`collectIndices_accepts` says that the declarations without problems are exactly those, and that
a duplicate is reported whatever else is wrong. -/

namespace EntityStore

variable {σ : Type}

/-! ## What is asked for -/

namespace IndexSpec

/-- The shapes that a declaration with a property can have. -/
def isInline (property : String) : IndexSpec → Bool
  | .details d => d.property.all (· == property)
  | .unsupported _ => false
  | .reduced _ | .enabled _ | .comparison _ | .comparisons _ | .switches _ => true

/-- The shapes that a declaration in the section can have. -/
def isSingle : IndexSpec → Bool
  | .comparisons _ | .switches _ | .unsupported _ => false
  | .reduced _ | .enabled _ | .comparison _ | .details _ => true

/-- What a declaration asks for: one request for each comparison that is switched on, for the
property that it names or else the one of its key. -/
def requests (key : String) : IndexSpec → List IndexRequest
  | .reduced r => [{ property := key, reducer := some r }]
  | .enabled on => if on then [{ property := key }] else []
  | .comparison name =>
    if (Text.trim name).isEmpty then [] else [{ property := key, comparison := some name }]
  | .comparisons names => names.map fun name => { property := key, comparison := some name }
  | .switches entries => entries.filterMap fun e => match e.2 with
    | .enabled false => none
    | .enabled true => some { property := key, comparison := some e.1 }
    | .reduced r => some { property := key, comparison := some e.1, reducer := some r }
  | .details d =>
    [{ property := d.property.getD key, comparison := d.comparison, reducer := d.reducer,
       type := d.type, typeName := d.typeName }]
  | .unsupported _ => []

end IndexSpec

/-- The declarations with the properties, in their order. -/
def Schema.inlineIndices (own : Schema σ) : List (String × IndexSpec) :=
  own.properties.entries.filterMap fun e => e.2.index.map fun spec => (e.1, spec)

/-- What all declarations ask for that have a shape for their place: first those with the
properties, then those in the section. -/
def askedIndices (own : Schema σ) (indices : List (String × IndexSpec)) : List IndexRequest :=
  (own.inlineIndices.flatMap fun e => if e.2.isInline e.1 then e.2.requests e.1 else []) ++
    indices.flatMap fun e => if e.2.isSingle then e.2.requests e.1 else []

/-- The name of a comparison: that of equality if there is none, and `noteq` is another name of
`neq`. Blanks around it do not count, nor does the case. -/
def IndexRequest.Names (r : IndexRequest) (c : Comparison) : Prop :=
  Text.fold (r.comparison.getD "eq") = c.name ∨
    Text.fold (r.comparison.getD "eq") = "noteq" ∧ c = .notEqual

/-- A request for the index of a property that makes a comparison. -/
structure IndexRequest.AsksFor (r : IndexRequest) (property : String) (c : Comparison) : Prop where
  /-- It is for the property. -/
  property_eq : r.property = property
  /-- It names the comparison. -/
  names : r.Names c
  /-- There are indices for the comparison. -/
  able : c ∈ indexable

/-- There is the member, and the type by which its values are compared. -/
structure IndexRequest.Resolves (r : IndexRequest) (own base : Schema σ) : Prop where
  /-- The model or its base has the property or computed property. -/
  member : (own.properties.contains r.property || base.properties.contains r.property ||
    own.computed.contains r.property || base.computed.contains r.property) = true
  /-- The type that the request names exists, if nothing else tells the type: the request does not
  insist on one, and the member is a computed property without one. -/
  named : r.type = none → (base.merge own).properties.get? r.property = none →
    (∀ c, (base.merge own).computed.get? r.property = some c → c.type = none) →
    ∀ name, r.typeName = some name → (ScalarType.ofName? name).isSome = true

/-- What has to hold of the declarations. -/
structure WellDeclared (own : Schema σ) (indices : List (String × IndexSpec))
    (base : Schema σ) : Prop where
  /-- Declarations with a property are for that property, and of a shape that exists. -/
  inlined : ∀ e ∈ own.inlineIndices, e.2.isInline e.1 = true
  /-- Those in the section are for one comparison. -/
  single : ∀ e ∈ indices, e.2.isSingle = true
  /-- There are indices for the comparison. -/
  comparison : ∀ r ∈ askedIndices own indices, ∃ c, r.AsksFor r.property c
  /-- There is the member, and its values have a type. -/
  resolved : ∀ r ∈ askedIndices own indices, r.Resolves own base
  /-- No two ask for the same comparison of the same property. -/
  apart : ∀ r q, [r, q].Sublist (askedIndices own indices) → ∀ property c,
    r.AsksFor property c → ¬ q.AsksFor property c

/-! ## Names of comparisons -/

theorem Comparison.mem_all (c : Comparison) : c ∈ all := by cases c <;> decide

theorem Comparison.ofName?_eq_some_iff {text : String} {c : Comparison} :
    ofName? text = some c ↔ Text.fold text = c.name ∨ Text.fold text = "noteq" ∧ c = .notEqual := by
  have other : c.name ≠ "noteq" := by cases c <;> decide
  unfold ofName?
  dsimp only
  generalize Text.fold text = wanted
  split
  · next second =>
    subst second
    simp [Ne.symm other, eq_comm]
  · next plain =>
    constructor
    · intro found
      have named := List.find?_some found
      exact .inl (of_decide_eq_true named).symm
    · rintro (rfl | ⟨second, -⟩)
      · -- No two comparisons have one name.
        cases found : all.find? fun d => d.name = c.name with
        | none => exact absurd (List.find?_eq_none.1 found c (mem_all c)) (by simp)
        | some d =>
          have same := List.find?_some found
          rw [name_injective (of_decide_eq_true same)]
      · exact absurd second plain

namespace IndexRequest

/-- The comparison of a request is told by its name. -/
theorem place?_eq_some_iff {r : IndexRequest} {property : String} {c : Comparison} :
    r.place? = some (property, c) ↔ r.AsksFor property c := by
  unfold place? comparison? comparisonName
  simp only [Option.map_eq_some_iff, Option.filter_eq_some_iff, Comparison.ofName?_eq_some_iff,
    Text.fold_fold, Prod.mk.injEq, List.contains_iff_mem]
  constructor
  · rintro ⟨d, ⟨names, able⟩, property, rfl⟩
    exact ⟨property, names, able⟩
  · rintro ⟨property, names, able⟩
    exact ⟨c, ⟨names, able⟩, property, rfl⟩

theorem place?_isSome_iff {r : IndexRequest} :
    r.place?.isSome = true ↔ ∃ c, r.AsksFor r.property c := by
  simp only [← place?_eq_some_iff, place?, Option.isSome_map, Option.isSome_iff_exists]
  simp

/-! ## The type of a request -/

theorem resolves_iff {r : IndexRequest} {own base : Schema σ} : r.Resolves own base ↔
    ((base.merge own).properties.get? r.property ≠ none ∨
      (base.merge own).computed.get? r.property ≠ none) ∧
    (r.type = none → (base.merge own).properties.get? r.property = none →
      (∀ c, (base.merge own).computed.get? r.property = some c → c.type = none) →
      ∀ name, r.typeName = some name → (ScalarType.ofName? name).isSome = true) := by
  have member : (own.properties.contains r.property || base.properties.contains r.property ||
      own.computed.contains r.property || base.computed.contains r.property) = true ↔
      (base.merge own).properties.get? r.property ≠ none ∨
        (base.merge own).computed.get? r.property ≠ none := by
    simp only [← Option.isSome_iff_ne_none, Schema.merge, Section.get?_merge, Option.isSome_or,
      Section.contains, Bool.or_eq_true, or_assoc]
  exact ⟨fun h => ⟨member.1 h.member, h.named⟩, fun h => ⟨member.2 h.1, h.2⟩⟩

/-- What can be wrong with the type is no duplicate. -/
theorem resolve_ne_duplicate (r : IndexRequest) {own base : Schema σ} {p : Problem}
    (h : r.resolve own base = .error p) (key : String) : p ≠ .duplicateIndex key := by
  unfold resolve at h
  dsimp only at h
  split at h
  · exact Except.error.inj h ▸ by simp
  split at h
  · exact absurd h (by simp)
  split at h
  · exact absurd h (by simp)
  split at h
  · exact absurd h (by simp)
  · exact Except.error.inj h ▸ by simp

theorem resolve_isOk_iff {r : IndexRequest} {own base : Schema σ} :
    (∃ t, r.resolve own base = .ok t) ↔ r.Resolves own base := by
  rw [resolves_iff]
  unfold resolve Schema.merge
  simp only [Section.get?_merge, Option.orElse_eq_orElse, Option.orElse_eq_or]
  generalize (own.properties.get? r.property).or (base.properties.get? r.property) = property
  generalize (own.computed.get? r.property).or (base.computed.get? r.property) = computed
  cases property with
  | some p => cases r.type <;> simp
  | none =>
    cases computed with
    | none => simp
    | some c =>
      cases r.type with
      | some t => simp
      | none =>
        cases typed : c.type with
        | some t => simp [typed]
        | none =>
          cases r.typeName with
          | none => simp [typed]
          | some name => cases known : ScalarType.ofName? name <;> simp [typed, known]

end IndexRequest

/-! ## Requests -/

theorem inlineRequests_fst (property : String) (spec : IndexSpec) :
    (inlineRequests property spec).1 =
      if spec.isInline property then spec.requests property else [] := by
  cases spec with
  | details d =>
    cases named : d.property with
    | none => simp [inlineRequests, IndexSpec.isInline, IndexSpec.requests, named]
    | some other =>
      by_cases same : other = property <;>
        simp [inlineRequests, IndexSpec.isInline, IndexSpec.requests, named, same]
  | _ => rfl

theorem inlineRequests_clean_iff (property : String) (spec : IndexSpec) :
    (inlineRequests property spec).2 = [] ↔ spec.isInline property = true := by
  cases spec with
  | details d =>
    cases named : d.property with
    | none => simp [inlineRequests, IndexSpec.isInline, named]
    | some other =>
      by_cases same : other = property <;> simp [inlineRequests, IndexSpec.isInline, named, same]
  | _ => simp [inlineRequests, IndexSpec.isInline]

theorem sectionRequests_fst (key : String) (spec : IndexSpec) :
    (sectionRequests key spec).1 = if spec.isSingle then spec.requests key else [] := by
  cases spec <;> rfl

theorem sectionRequests_clean_iff (key : String) (spec : IndexSpec) :
    (sectionRequests key spec).2 = [] ↔ spec.isSingle = true := by
  cases spec <;> simp [sectionRequests, IndexSpec.isSingle]

/-- A property without a declaration asks for nothing. -/
theorem flatMap_inlineIndices {β : Type} (own : Schema σ) (f : String → IndexSpec → List β) :
    (own.properties.entries.flatMap fun e => (e.2.index.map (f e.1)).getD []) =
      own.inlineIndices.flatMap fun e => f e.1 e.2 := by
  unfold Schema.inlineIndices
  induction own.properties.entries with
  | nil => rfl
  | cons e rest ih =>
    rw [List.flatMap_cons, ih]
    cases declared : e.2.index <;> simp [declared]

theorem indexRequests_eq (own : Schema σ) (indices : List (String × IndexSpec)) :
    indexRequests own indices =
      ((own.inlineIndices.flatMap fun e => (inlineRequests e.1 e.2).1) ++
          indices.flatMap fun e => (sectionRequests e.1 e.2).1,
        (own.inlineIndices.flatMap fun e => (inlineRequests e.1 e.2).2) ++
          indices.flatMap fun e => (sectionRequests e.1 e.2).2) := by
  rw [← flatMap_inlineIndices own fun name spec => (inlineRequests name spec).1,
    ← flatMap_inlineIndices own fun name spec => (inlineRequests name spec).2]
  unfold indexRequests
  simp only [List.flatMap_append, List.flatMap_map, Prod.mk.injEq]
  constructor <;> congr 2 <;> funext e <;> cases e.2.index <;> rfl

theorem indexRequests_fst (own : Schema σ) (indices : List (String × IndexSpec)) :
    (indexRequests own indices).1 = askedIndices own indices := by
  simp only [indexRequests_eq, inlineRequests_fst, sectionRequests_fst, askedIndices]

theorem indexRequests_clean_iff (own : Schema σ) (indices : List (String × IndexSpec)) :
    (indexRequests own indices).2 = [] ↔
      (∀ e ∈ own.inlineIndices, e.2.isInline e.1 = true) ∧
        ∀ e ∈ indices, e.2.isSingle = true := by
  simp only [indexRequests_eq, List.append_eq_nil_iff, List.flatMap_eq_nil_iff,
    inlineRequests_clean_iff, sectionRequests_clean_iff]

/-! ## Collecting -/

namespace Collecting

variable {own base : Schema σ}

/-- There is an index at a place. -/
def Taken (c : Collecting) (place : Option (String × Comparison)) : Prop :=
  ∃ p ∈ c.seen, place = some p

theorem step_add (own base : Schema σ) : Tally.Step Collecting.problems Taken (add own base)
    (fun r => (∃ c, r.AsksFor r.property c) ∧ r.Resolves own base) IndexRequest.place? where
  clean_iff c r := by
    rw [← IndexRequest.place?_isSome_iff, ← IndexRequest.resolve_isOk_iff]
    unfold add Taken IndexRequest.place?
    cases r.comparison? with
    | none => simp
    | some comparison =>
      by_cases seen : (r.property, comparison) ∈ c.seen
      · simp [seen]
      · cases r.resolve own base <;> simp [seen]
  taken_iff c r clean place := by
    obtain ⟨-, d, given, -, seen, -⟩ := add_of_problems_eq_nil clean
    unfold Taken
    rw [seen, given.1]
    simp [or_and_right, exists_or]

theorem mem_seen_add {c : Collecting} {r : IndexRequest} {place : String × Comparison} :
    place ∈ (c.add own base r).seen ↔ place ∈ c.seen ∨ r.place? = some place := by
  unfold add IndexRequest.place?
  cases r.comparison? with
  | none => simp
  | some comparison =>
    by_cases seen : (r.property, comparison) ∈ c.seen
    · simp only [List.contains_iff_mem, seen, if_true, Option.map_some, Option.some.injEq]
      exact ⟨.inl, fun h => h.elim id fun same => same ▸ seen⟩
    · cases r.resolve own base <;> simp [seen, eq_comm]

/-- A duplicate is reported when a place is asked for that has been seen. -/
theorem duplicate_mem_add {c : Collecting} {r : IndexRequest} {property : String}
    {comparison : Comparison} :
    .duplicateIndex (IndexDefinition.keyOf property comparison) ∈ (c.add own base r).problems ↔
      .duplicateIndex (IndexDefinition.keyOf property comparison) ∈ c.problems ∨
        (property, comparison) ∈ c.seen ∧ r.place? = some (property, comparison) := by
  have key (other : String) (d : Comparison) :
      IndexDefinition.keyOf property comparison = IndexDefinition.keyOf other d ↔
        (other, d) = (property, comparison) := by
    constructor
    · intro same
      obtain ⟨rfl, rfl⟩ := IndexDefinition.keyOf_injective same
      rfl
    · rintro ⟨⟩
      rfl
  unfold add IndexRequest.place?
  cases r.comparison? with
  | none => simp
  | some d =>
    by_cases seen : (r.property, d) ∈ c.seen
    · simp only [List.contains_iff_mem, seen, if_true, List.mem_append, List.mem_singleton,
        Problem.duplicateIndex.injEq, key, Option.map_some, Option.some.injEq]
      exact or_congr_right ⟨fun same => ⟨same ▸ seen, same⟩, And.right⟩
    · have fresh : ¬ ((property, comparison) ∈ c.seen ∧ (r.property, d) = (property, comparison)) :=
        fun ⟨known, same⟩ => seen (same ▸ known)
      cases resolved : r.resolve own base with
      | ok t =>
        simp only [List.contains_iff_mem, seen, if_false, Option.map_some, Option.some.injEq, fresh,
          or_false]
      | error p =>
        have other := (r.resolve_ne_duplicate resolved
          (IndexDefinition.keyOf property comparison)).symm
        simp only [List.contains_iff_mem, seen, if_false, Option.map_some, Option.some.injEq, fresh,
          List.mem_append, List.mem_singleton, other, or_false]

/-- A duplicate is reported if its place has been seen and is asked for once more, or if it is
asked for twice. -/
theorem duplicate_mem_foldl {c : Collecting} {requests : List IndexRequest} {property : String}
    {comparison : Comparison} :
    .duplicateIndex (IndexDefinition.keyOf property comparison) ∈
        (requests.foldl (add own base) c).problems ↔
      .duplicateIndex (IndexDefinition.keyOf property comparison) ∈ c.problems ∨
        (property, comparison) ∈ c.seen ∧
          some (property, comparison) ∈ requests.map IndexRequest.place? ∨
        List.Duplicate (some (property, comparison)) (requests.map IndexRequest.place?) := by
  induction requests generalizing c with
  | nil => simp
  | cons r rest ih =>
    rw [List.foldl_cons, ih, duplicate_mem_add, mem_seen_add, List.map_cons, List.mem_cons,
      List.duplicate_cons_iff, eq_comm (a := some (property, comparison)) (b := r.place?)]
    grind

end Collecting

/-- Two requests of a list are for one place, if the place is there twice. -/
theorem duplicate_place?_iff {requests : List IndexRequest} {property : String} {c : Comparison} :
    List.Duplicate (some (property, c)) (requests.map IndexRequest.place?) ↔
      ∃ r q, [r, q].Sublist requests ∧ r.AsksFor property c ∧ q.AsksFor property c := by
  rw [List.duplicate_iff_sublist, List.sublist_map_iff]
  simp only [← IndexRequest.place?_eq_some_iff]
  constructor
  · rintro ⟨pair, within, places⟩
    obtain ⟨r, q, rfl⟩ := List.length_eq_two.1 (by simpa using (congrArg List.length places).symm)
    obtain ⟨first, second⟩ : some (property, c) = r.place? ∧ some (property, c) = q.place? := by
      simpa using places
    exact ⟨r, q, within, first.symm, second.symm⟩
  · rintro ⟨r, q, within, first, second⟩
    exact ⟨[r, q], within, by simp [first, second]⟩

/-! ## Declarations that are accepted -/

variable {own base : Schema σ} {indices : List (String × IndexSpec)}

theorem wellDeclared_iff : WellDeclared own indices base ↔
    ((∀ e ∈ own.inlineIndices, e.2.isInline e.1 = true) ∧ ∀ e ∈ indices, e.2.isSingle = true) ∧
      (∀ r ∈ askedIndices own indices, (∃ c, r.AsksFor r.property c) ∧ r.Resolves own base) ∧
        ((askedIndices own indices).map IndexRequest.place?).Nodup := by
  constructor
  · intro h
    refine ⟨⟨h.inlined, h.single⟩, fun r hr => ⟨h.comparison r hr, h.resolved r hr⟩, ?_⟩
    refine List.nodup_iff_forall_not_duplicate.2 fun place twice => ?_
    -- Every place is that of a property and a comparison.
    obtain ⟨r, hr, rfl⟩ := List.mem_map.1 twice.mem
    obtain ⟨c, asked⟩ := h.comparison r hr
    rw [IndexRequest.place?_eq_some_iff.2 asked, duplicate_place?_iff] at twice
    obtain ⟨first, second, within, asked₁, asked₂⟩ := twice
    exact h.apart first second within _ _ asked₁ asked₂
  · rintro ⟨⟨inlined, single⟩, asked, apart⟩
    refine ⟨inlined, single, fun r hr => (asked r hr).1, fun r hr => (asked r hr).2, ?_⟩
    intro r q within property c first second
    exact List.nodup_iff_forall_not_duplicate.1 apart _
      (duplicate_place?_iff.2 ⟨r, q, within, first, second⟩)

theorem collectIndices_clean_iff :
    (collectIndices own indices base).2 = [] ↔ WellDeclared own indices base := by
  have start : Tally Collecting.problems Collecting.Taken {} True [] :=
    ⟨by simp, fun _ place => by simp [Collecting.Taken]⟩
  have collected :=
    (start.foldl (Collecting.step_add own base) (askedIndices own indices)).clean_iff
  rw [true_and, List.nil_append] at collected
  unfold collectIndices
  dsimp only
  rw [wellDeclared_iff, List.append_eq_nil_iff, indexRequests_clean_iff, indexRequests_fst,
    collected]

/-- The definitions without problems are what is asked for, with the types of the merged schema. -/
theorem collectIndices_of_wellDeclared (h : WellDeclared own indices base) :
    List.Forall₂ (fun r d => r.AsksFor d.property d.comparison ∧
        d.type = r.typeIn (base.merge own) ∧ d.reducer = r.reducer)
      (askedIndices own indices) (collectIndices own indices base).1 := by
  have gives := (collectIndices_definitions (collectIndices_clean_iff.2 h)).1
  rw [indexRequests_fst] at gives
  exact gives.imp fun r d given => ⟨IndexRequest.place?_eq_some_iff.1 given.1,
    IndexRequest.eq_typeIn_of_resolve given.2.1, given.2.2⟩

/-- The shape of a declaration does not tell of a duplicate. -/
theorem duplicate_notMem_indexRequests (key : String) :
    .duplicateIndex key ∉ (indexRequests own indices).2 := by
  have inlined (property : String) (spec : IndexSpec) :
      .duplicateIndex key ∉ (inlineRequests property spec).2 := by
    cases spec with
    | details d =>
      unfold inlineRequests
      dsimp only
      split <;> simp
    | _ => simp [inlineRequests]
  have single (property : String) (spec : IndexSpec) :
      .duplicateIndex key ∉ (sectionRequests property spec).2 := by
    cases spec <;> simp [sectionRequests]
  rw [indexRequests_eq]
  simp [inlined, single]

/-- The declarations without problems are those that are well declared. Their definitions are then
what is asked for, in order. A duplicate is reported for two declarations of one comparison of one
property, however they are spelled and wherever they stand, and for no others. -/
theorem collectIndices_accepts (own : Schema σ) (indices : List (String × IndexSpec))
    (base : Schema σ) :
    ((collectIndices own indices base).2 = [] ↔ WellDeclared own indices base) ∧
      (WellDeclared own indices base →
        List.Forall₂ (fun r d => r.AsksFor d.property d.comparison ∧
            d.type = r.typeIn (base.merge own) ∧ d.reducer = r.reducer)
          (askedIndices own indices) (collectIndices own indices base).1) ∧
      ∀ property c,
        .duplicateIndex (IndexDefinition.keyOf property c) ∈ (collectIndices own indices base).2 ↔
          ∃ r q, [r, q].Sublist (askedIndices own indices) ∧
            r.AsksFor property c ∧ q.AsksFor property c := by
  refine ⟨collectIndices_clean_iff, collectIndices_of_wellDeclared, fun property c => ?_⟩
  unfold collectIndices
  dsimp only
  rw [List.mem_append, Collecting.duplicate_mem_foldl, indexRequests_fst, duplicate_place?_iff]
  simp [duplicate_notMem_indexRequests]

/-- Players have a rank, with two indices, and a nickname, with one that is switched on. -/
def playerSchema : Schema Unit where
  properties := (Section.empty.insert "rank"
    { typeName := "integer", index := some (.comparisons [" EQ ", "lt"]) }).insert "nickname"
    { index := some (.switches [("gt", .enabled false), ("Between", .enabled true)]) }

/-- A third index on the rank is well declared. If it is declared twice, under two names and under
keys of its own, it is reported. -/
theorem collectIndices_accepts_players :
    WellDeclared playerSchema [("rank", .comparison "NotEq"), ("nickname", .comparison " ")] {} ∧
      ∃ r q, [r, q].Sublist (askedIndices playerSchema
          [("rank", .comparison "NotEq"),
            ("ranks", .details { property := some "rank", comparison := some " neq" })]) ∧
        r.AsksFor "rank" .notEqual ∧ q.AsksFor "rank" .notEqual := by
  obtain ⟨accepted, -, -⟩ := collectIndices_accepts playerSchema
    [("rank", .comparison "NotEq"), ("nickname", .comparison " ")] {}
  obtain ⟨-, -, reported⟩ := collectIndices_accepts playerSchema
    [("rank", .comparison "NotEq"),
      ("ranks", .details { property := some "rank", comparison := some " neq" })] {}
  refine ⟨accepted.1 ?_, (reported "rank" .notEqual).1 ?_⟩
  · rw [← List.isEmpty_iff]
    decide +kernel
  · have problems : (collectIndices playerSchema [("rank", .comparison "NotEq"),
        ("ranks", .details { property := some "rank", comparison := some " neq" })] {}).2 =
        [.duplicateIndex (IndexDefinition.keyOf "rank" .notEqual)] := by rfl
    rw [problems]
    exact List.mem_singleton_self _

end EntityStore
