import EntityStore.Proofs.Storage.Mirror

set_option autoImplicit false

/-! # Building indices anew changes nothing

Indices are kept up to date item by item, from the properties that are saved. They can also be built
anew, from the records in the store. If the items of a model are kept in a memory of its own, both
ways give the same entries, at any time (`Population.reindex_run`): the memory holds the records of
what was written last (`Session.Mirrors`), the identities can be told from their keys, and what was
written is restored from its record. -/

namespace EntityStore

variable {σ W : Type}

/-! ## Entering records -/

namespace Session

/-- Entering readable records of items gives the indices the values of these items. -/
theorem IndicesHold.indexKeys {m : Model σ W} {stored known : Uuid → Option Properties}
    {l : List String} {s : Session σ W} (h : s.IndicesHold m known) (codec : m.keys.IsCodec)
    (adapter : Adapter W) (count : Nat)
    (readable : ∀ key ∈ l, ∃ id record, key = m.keys.key id ∧
      adapter.read key s.store = .ok record ∧ stored id = some (m.pipeline.deserialize record)) :
    ∃ t, indexKeys m adapter l count s = (.ok (count + l.length), t) ∧
      t.IndicesHold m fun id => if m.keys.key id ∈ l then stored id else known id := by
  -- By induction on the keys that are left, whatever the indices hold already.
  induction l generalizing s known count with
  | nil => exact ⟨s, rfl, by simpa using h⟩
  | cons key rest ih =>
    obtain ⟨⟨id, record, rfl, read, value⟩, others⟩ := List.forall_mem_cons.1 readable
    obtain ⟨t, run, holds⟩ := ih (h.updateIndices id (m.pipeline.deserialize record)) (count + 1)
      others
    refine ⟨t, ?_, ?_⟩
    · unfold Session.indexKeys
      rw [codec.id?_key, read]
      dsimp only
      rw [run, List.length_cons, Nat.add_right_comm, Nat.add_assoc]
    · have same : (fun other => if m.keys.key other ∈ m.keys.key id :: rest then stored other
            else known other) = fun other => if m.keys.key other ∈ rest then stored other
            else if other = id then some (m.pipeline.deserialize record) else known other := by
        funext other
        simp only [List.mem_cons, codec.key_inj]
        by_cases ho : other = id
        · simp [ho, value]
        · simp [ho]
      rw [same]
      exact holds

end Session

/-- The properties for which the record of an item stands. -/
def Memory.restored? (store : Memory) (m : Model σ W) (id : Uuid) : Option Properties :=
  (store.records.get? (m.keys.key id)).map m.pipeline.deserialize

section OwnMemory

variable {m : Model σ Memory} {keyBase : String} {handle : Nat} {binary : Bool}
  {s : Session σ Memory}

/-- If the store mirrors what was written, building the indices anew counts the records and gives
the indices the values for which the records stand. -/
theorem Session.Mirrors.reindex (mirrors : s.Mirrors m binary)
    (own : m.adapter = Memory.adapter handle binary) (codec : m.keys.IsCodec)
    {known : Uuid → Option Properties} (holds : s.IndicesHold m known) :
    ∃ t, s.reindex m = (.ok s.store.records.size, t) ∧ t.IndicesHold m (s.store.restored? m) := by
  have observed : s.observedAdapter m = Memory.adapter handle binary := by
    rw [observedAdapter, mirrors.observed_eq, Option.getD_none, own]
  have keys : s.store.keys m.keys.base = .ok s.store.records.names := by
    -- All records are those of items, whose keys lie below the base.
    refine Memory.keys_of_isBelow codec.valid_base fun key hk => ?_
    obtain ⟨id, rfl⟩ := mirrors.named key hk
    exact codec.below id
  have readable : ∀ key ∈ s.store.records.names, ∃ id record, key = m.keys.key id ∧
      s.store.read key = .ok record ∧
      s.store.restored? m id = some (m.pipeline.deserialize record) := by
    intro key hk
    obtain ⟨record, stored⟩ := Bag.mem_names.1 hk
    obtain ⟨id, rfl⟩ := mirrors.named key hk
    exact ⟨id, record, rfl, Memory.read_of_isValid (codec.valid id) stored,
      congrArg (Option.map _) stored⟩
  obtain ⟨t, run, entered⟩ := holds.clearIndices.indexKeys codec (Memory.adapter handle binary) 0
    readable
  refine ⟨t, ?_, ?_⟩
  · have asked : (Memory.adapter handle binary).keys m.keys.base (s.clearIndices m).store =
        .ok s.store.records.names := keys
    unfold Session.reindex
    dsimp only
    rw [observed, asked]
    dsimp only
    rw [run, Nat.zero_add, Bag.names, List.length_map]
    rfl
  · have same : (fun id => if m.keys.key id ∈ s.store.records.names then s.store.restored? m id
          else none) = s.store.restored? m := by
      funext id
      split
      · rfl
      · next absent =>
        have none : s.store.records.get? (m.keys.key id) = none := Bag.not_mem_names.1 absent
        rw [Memory.restored?, none]
        rfl
    rw [← same]
    exact entered

/-- The records stand for the declared part of what was last written. -/
theorem Session.Mirrors.restored?_eq (mirrors : s.Mirrors m binary) (coherent : m.Coherent keyBase)
    (id : Uuid) :
    s.store.restored? m id = (s.lastWritten? m id).map m.schema.properties.restrict := by
  rw [Memory.restored?, mirrors.record_eq, Option.map_map]
  cases written : s.lastWritten? m id with
  | none => rfl
  | some bag =>
    obtain ⟨canonical, storable⟩ := mirrors.readable id bag written
    have restored := canonical.deserialize_serialize coherent.typed storable binary
    rw [← coherent.pipeline_eq] at restored
    exact congrArg some restored

end OwnMemory

/-! ## Values of the declared part -/

/-- Computed properties depend on declared properties only. -/
def Model.ReadsDeclared (m : Model σ W) : Prop :=
  ∀ name c, m.schema.computed.get? name = some c → ∀ bag bag' : Properties,
    (∀ other ∈ m.schema.properties.names, bag.get? other = bag'.get? other) →
      c.code.read bag = c.code.read bag'

theorem Model.value?_restrict {m : Model σ W} (reads : m.ReadsDeclared) (name : String)
    (bag : Properties) :
    m.value? name (m.schema.properties.restrict bag) = m.value? name bag := by
  unfold value?
  split
  · next declared => rw [Section.get?_restrict, if_pos declared]
  · cases computed : m.schema.computed.get? name with
    | none => rfl
    | some c =>
      have same := reads name c computed (m.schema.properties.restrict bag) bag fun other ho => by
        obtain ⟨p, hp⟩ := Section.mem_names.1 ho
        rw [Section.get?_restrict, if_pos (by rw [Section.contains, hp]; rfl)]
      rw [Option.map_some, Option.map_some, Computed.read, Computed.read, same]

/-- An index keeps the same value for properties and for their declared part. -/
theorem Model.indexedValue_restrict {m : Model σ W} (reads : m.ReadsDeclared) (d : IndexDefinition)
    (bag : Properties) :
    m.indexedValue d (m.schema.properties.restrict bag) = m.indexedValue d bag := by
  rw [indexedValue, value?_restrict reads]
  rfl

/-! ## The same entries -/

/-- Two indices have one definition and the same entries, maybe in another order. -/
structure ModelIndex.SameEntries (x y : ModelIndex) : Prop where
  /-- The definitions are equal. -/
  definition : x.definition = y.definition
  /-- Every entry of one index is one of the other. -/
  entries : x.content.entries.Perm y.content.entries

namespace Session

variable {m : Model σ W} {s t : Session σ W} {known known' : Uuid → Option Properties}

/-- Indices hold whatever has the same values. -/
theorem IndicesHold.of_values (h : s.IndicesHold m known)
    (eq : ∀ d id, (known id).map (m.indexedValue d) = (known' id).map (m.indexedValue d)) :
    s.IndicesHold m known' where
  definitions := h.definitions
  holds x hx := ⟨(h.holds x hx).comparison_eq, (h.holds x hx).type_eq,
    (h.holds x hx).represents.congr (eq x.definition)⟩

/-- What indices hold determines their entries. -/
theorem IndicesHold.sameEntries (hs : s.IndicesHold m known) (ht : t.IndicesHold m known) :
    List.Forall₂ ModelIndex.SameEntries (s.indicesOf m) (t.indicesOf m) := by
  obtain ⟨definitions, holds⟩ := hs
  obtain ⟨definitions', holds'⟩ := ht
  rw [← definitions'] at definitions
  generalize s.indicesOf m = l at definitions holds
  generalize t.indicesOf m = l' at definitions holds'
  induction l generalizing l' with
  | nil =>
    rw [List.map_nil, eq_comm, List.map_eq_nil_iff] at definitions
    rw [definitions]
    exact .nil
  | cons x l ih =>
    rcases l' with _ | ⟨y, l'⟩
    · exact absurd definitions (by simp)
    · rw [List.map_cons, List.map_cons, List.cons.injEq] at definitions
      obtain ⟨hx, hl⟩ := List.forall_mem_cons.1 holds
      obtain ⟨hy, hl'⟩ := List.forall_mem_cons.1 holds'
      refine .cons ⟨definitions.1, ?_⟩ (ih hl l' definitions.2 hl')
      have represents := hx.represents
      rw [definitions.1] at represents
      exact represents.perm hy.represents

end Session

/-! ## Runs -/

namespace Population

/-- No item of a population has a date outside of the years 0 to 9999 in a declared property. -/
def HasPlainYears (m : Model σ W) (p : Population σ W) : Prop :=
  ∀ i ∈ p.items, m.schema.properties.hasPlainYears i.properties = true

/-- An action in a population whose items and records are those of the model leaves it like that. -/
theorem mirrors_act {m : Model σ Memory} {keyBase : String} {handle : Nat} {binary : Bool}
    (own : m.adapter = Memory.adapter handle binary) (codec : m.keys.IsCodec)
    (coherent : m.Coherent keyBase) (hooks : m.HooksOnlyCheck) {p : Population σ Memory}
    {a : Action Memory} (adapter : ∀ id other policy, a = .make id other policy → other = none)
    (plain : p.HasPlainYears m)
    (h : (∀ i ∈ p.items, i.IsOwned m) ∧ p.session.Mirrors m binary) :
    (∀ i ∈ (p.act m a).items, i.IsOwned m) ∧ (p.act m a).session.Mirrors m binary := by
  obtain ⟨items, mirrors⟩ := h
  constructor
  · refine forall_items_act (Item.IsOwned.kept coherent) a (fun id other policy made => ?_) items
    obtain rfl := adapter id other policy made
    exact ⟨Item.isCanonical_create coherent id none policy, rfl⟩
  · exact session_act (Session.kept_mirrors own codec coherent hooks) a
      (fun i hi => ⟨items i hi, plain i hi⟩) mirrors

/-- Building the indices of a model anew, at any time, counts the stored items and leaves every
index with the entries that it had. The model is one that can be made, with a memory of its own
under a base of keys without a mark for identities; its code for events does not write properties,
and its computed properties depend on declared ones only. Any items have been made, without adapters
of their own, and anything was done with them, as long as no date left the years 0 to 9999. -/
theorem reindex_run {m : Model σ Memory} {keyBase : String} {handle : Nat} {binary : Bool}
    (compiled : m.Compiled keyBase) (own : m.adapter = Memory.adapter handle binary)
    (valid : Key.isValid keyBase = true) (unmarked : ¬ KeyTemplate.mark <:+: keyBase.toList)
    (hooks : m.HooksOnlyCheck) (reads : m.ReadsDeclared) (notes : σ) (identities : Nat → Uuid)
    (actions : List (Action Memory))
    (adapter : ∀ id other policy, .make id other policy ∈ actions → other = none)
    (plain : ∀ l, l <+: actions → ((start {} notes identities).run m l).HasPlainYears m) :
    let s := ((start {} notes identities).run m actions).session
    (s.reindex m).1 = .ok s.store.records.size ∧
      List.Forall₂ ModelIndex.SameEntries (s.indicesOf m) ((s.reindex m).2.indicesOf m) := by
  intro s
  have coherent := compiled.coherent
  have codec : m.keys.IsCodec := by
    rw [coherent.keys_eq]
    exact KeyTemplate.isCodec_forModel valid unmarked coherent.named
  have mirrors : s.Mirrors m binary := by
    -- The invariant of the run: items in canonical form, and a store that mirrors what was written.
    refine (run_keeps_while (C := HasPlainYears m)
      (K := fun p => (∀ i ∈ p.items, i.IsOwned m) ∧ p.session.Mirrors m binary)
      (fun p a ha plain h => ?_) plain ⟨by simp [start], .start notes identities m binary⟩).2
    exact mirrors_act own codec coherent hooks
      (fun id other policy made => adapter id other policy (made ▸ ha)) plain h
  have current : s.IndicesCurrent m := indicesCurrent_run m {} notes identities actions
  obtain ⟨t, run, holds⟩ := mirrors.reindex own codec current
  rw [run]
  refine ⟨rfl, current.sameEntries (holds.of_values fun d id => ?_)⟩
  -- What the records stand for has the same values in the indices as what was written.
  rw [mirrors.restored?_eq coherent, Option.map_map]
  cases s.lastWritten? m id with
  | none => rfl
  | some bag => exact congrArg some (m.indexedValue_restrict reads d bag)

/-! Two meetings, one of which cannot be removed. -/

/-- The heading of a meeting is its title. -/
def meetingHeading : ComputedCode :=
  { ComputedCode.silent with read := fun bag => bag.get? "title" }

/-- Meetings must not be removed. -/
def meetingRefusal : Hook Unit := .raise (.rejected "a meeting stays")

/-- Meetings are kept in memory. -/
def meetingContext : ModelContext Memory := { adapter := Memory.adapter 1 true }

/-- A meeting has a title and a day, and indices on its heading and its day. -/
def meetingDraft : Draft Unit :=
  { properties := [("title", {}), ("day", { typeName := "date", index := some (.comparison "gt") })]
    computed := [("heading", { code := some meetingHeading })]
    hooks := [("beforeRemove", some meetingRefusal)]
    indices := [("heading", .enabled true)] }

/-- The model of meetings. -/
def meetingModel : Model Unit Memory :=
  (Model.compile meetingContext 1 "Meeting" meetingDraft (.root meetingContext) none).toOption.get
    (by decide +kernel)

/-- Make, fill and save a meeting, save another one, and try to remove the first. -/
def meetingActions : List (Action Memory) :=
  [.make none none none, .operate 0 (.set "title" (.string "plan")),
    .operate 0 (.set "day" (.string "2024-03-01")), .operate 0 .save,
    .make (some (.ofNat 7)) none none, .operate 1 .save, .operate 0 .remove]

theorem reindex_run_meetings :
    let s := ((start {} () .ofNat).run meetingModel meetingActions).session
    (s.reindex meetingModel).1 = .ok 2 ∧
      List.Forall₂ ModelIndex.SameEntries (s.indicesOf meetingModel)
        ((s.reindex meetingModel).2.indicesOf meetingModel) := by
  have compiled : meetingModel.Compiled "models" :=
    .compile meetingContext 1 "Meeting" meetingDraft none (.root meetingContext)
      (Except.eq_ok_get _ _)
  have hooks : meetingModel.HooksOnlyCheck := by
    have refusal : meetingModel.hook? .beforeRemove = some meetingRefusal := rfl
    have others : ∀ e, e ≠ .beforeRemove → meetingModel.hook? e = none := by
      intro e he
      cases e <;> first | rfl | exact absurd rfl he
    intro e code hook i notes _
    by_cases he : e = .beforeRemove
    · rw [he, refusal] at hook
      rw [← Option.some.inj hook]
      rfl
    · rw [others e he] at hook
      exact absurd hook (by simp)
  have reads : meetingModel.ReadsDeclared := by
    have heading : meetingModel.schema.computed.get? =
        fun name => if "heading" = name then some { code := meetingHeading } else none := rfl
    intro name c found bag bag' same
    rw [heading] at found
    dsimp only at found
    split at found
    · obtain rfl := Option.some.inj found
      exact same "title" (by decide +kernel)
    · exact absurd found (by simp)
  have adapter : ∀ id other policy, .make id other policy ∈ meetingActions → other = none := by
    intro id other policy made
    simp only [meetingActions, List.mem_cons, Action.make.injEq, reduceCtorEq, List.not_mem_nil,
      false_or, or_false] at made
    rcases made with ⟨-, h, -⟩ | ⟨-, h, -⟩ <;> exact h
  have plain : ∀ n ≤ meetingActions.length,
      ∀ i ∈ ((start {} () .ofNat).run meetingModel (meetingActions.take n)).items,
        meetingModel.schema.properties.hasPlainYears i.properties = true := by decide +kernel
  have during : ∀ l, l <+: meetingActions →
      ((start {} () .ofNat).run meetingModel l).HasPlainYears meetingModel := by
    intro l hl
    rw [List.prefix_iff_eq_take.1 hl]
    exact plain l.length hl.length_le
  have own : meetingModel.adapter = Memory.adapter 1 true := rfl
  have rebuilt := reindex_run compiled own (by decide) (by decide) hooks reads () .ofNat
    meetingActions adapter during
  have stored : ((start {} () .ofNat).run meetingModel
      meetingActions).session.store.records.size = 2 := by decide +kernel
  dsimp only at rebuilt
  rwa [stored] at rebuilt

end Population

end EntityStore
