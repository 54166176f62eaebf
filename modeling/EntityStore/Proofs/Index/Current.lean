import EntityStore.Proofs.Population

set_option autoImplicit false

/-! # Indices hold what was last written

Saving an item enters its values into every index of its model, and removing it takes them out.
Whatever else happens, an index keeps exactly one entry for each item that was written and not
removed since, with the value that follows from the properties of that write
(`Session.IndicesCurrent`). This is an invariant of all runs (`indicesCurrent_run`): writing and
indexing are two steps, but nothing happens between them. -/

namespace EntityStore

variable {σ W : Type}

/-! ## One index -/

namespace SortedIndex

/-- An insertion puts the new entry somewhere among the entries of other items. -/
theorem perm_insert (index : SortedIndex) (id : Uuid) (v : Value) :
    (index.insert id v).entries.Perm ((v, id) :: (index.remove id).entries) := by
  simp only [insert]
  refine List.perm_middle.trans ?_
  rw [List.take_append_drop]

theorem mem_remove {index : SortedIndex} {id : Uuid} {e : Value × Uuid} :
    e ∈ (index.remove id).entries ↔ e ∈ index.entries ∧ e.2 ≠ id := by
  simp [remove]

theorem mem_insert {index : SortedIndex} {id : Uuid} {v : Value} {e : Value × Uuid} :
    e ∈ (index.insert id v).entries ↔ e = (v, id) ∨ e ∈ index.entries ∧ e.2 ≠ id := by
  rw [(index.perm_insert id v).mem_iff, List.mem_cons, mem_remove]

/-- The entries of an index are those of a function from identities to values. -/
structure Represents (index : SortedIndex) (values : Uuid → Option Value) : Prop where
  /-- No item has two entries. -/
  nodup : (index.entries.map (·.2)).Nodup
  /-- The entry of an item has its value. -/
  mem_iff : ∀ v id, (v, id) ∈ index.entries ↔ values id = some v

namespace Represents

variable {index : SortedIndex} {values : Uuid → Option Value}

/-- An index without entries is that of no items. -/
theorem of_nil (h : index.entries = []) : index.Represents fun _ => none where
  nodup := by simp [h]
  mem_iff v id := by simp [h]

theorem congr {values' : Uuid → Option Value} (h : index.Represents values)
    (eq : ∀ id, values id = values' id) : index.Represents values' where
  nodup := h.nodup
  mem_iff v id := by rw [h.mem_iff, eq]

theorem remove (h : index.Represents values) (id : Uuid) :
    (index.remove id).Represents fun other => if other = id then none else values other where
  nodup := h.nodup.sublist (List.filter_sublist.map _)
  mem_iff v other := by
    rw [mem_remove, h.mem_iff]
    by_cases hn : other = id <;> simp [hn]

theorem insert (h : index.Represents values) (id : Uuid) (v : Value) :
    (index.insert id v).Represents fun other => if other = id then some v else values other where
  nodup := by
    rw [((index.perm_insert id v).map _).nodup_iff, List.map_cons, List.nodup_cons]
    refine ⟨?_, (h.remove id).nodup⟩
    simp [SortedIndex.remove]
  mem_iff w other := by
    rw [mem_insert, h.mem_iff]
    by_cases hn : other = id
    · simp [hn, eq_comm]
    · simp [hn]

theorem nodup_entries (h : index.Represents values) : index.entries.Nodup :=
  List.Pairwise.of_map (·.2) (fun _ _ ne eq => ne (congrArg Prod.snd eq)) h.nodup

/-- Two indices of the same values have the same entries. -/
theorem perm {other : SortedIndex} (h : index.Represents values) (ho : other.Represents values) :
    index.entries.Perm other.entries := by
  refine (List.perm_ext_iff_of_nodup h.nodup_entries ho.nodup_entries).2 ?_
  rintro ⟨v, id⟩
  rw [h.mem_iff, ho.mem_iff]

/-- A look-up gives each item whose value passes the comparison, once. -/
theorem find (h : index.Represents values) (operands : List Value) :
    (index.find operands).Nodup ∧ ∀ id, id ∈ index.find operands ↔
      ∃ v, values id = some v ∧ index.type.compare index.comparison v operands = true := by
  refine ⟨h.nodup.sublist (List.filter_sublist.map _), fun id => ?_⟩
  simp only [SortedIndex.find, List.mem_map, List.mem_filter]
  constructor
  · rintro ⟨⟨v, id⟩, ⟨entry, passes⟩, rfl⟩
    exact ⟨v, (h.mem_iff v id).1 entry, passes⟩
  · rintro ⟨v, value, passes⟩
    exact ⟨(v, id), ⟨(h.mem_iff v id).2 value, passes⟩, rfl⟩

end Represents

end SortedIndex

/-! ## The indices of a model -/

/-- The value that an index with a definition keeps for given properties. -/
def Model.indexedValue (m : Model σ W) (d : IndexDefinition) (bag : Properties) : Value :=
  d.reduce ((m.value? d.property bag).getD .null)

/-- The index has the order and the entries that its definition asks for, given the properties of
each item. -/
structure ModelIndex.Holds (x : ModelIndex) (m : Model σ W) (known : Uuid → Option Properties) :
    Prop where
  /-- Look-ups make the comparison of the definition. -/
  comparison_eq : x.content.comparison = x.definition.comparison
  /-- Values are ordered by the type of the definition. -/
  type_eq : x.content.type = x.definition.type
  /-- The entries are those of the items. -/
  represents : x.content.Represents fun id => (known id).map (m.indexedValue x.definition)

namespace Session

/-- The model has all its indices, and they hold the values of items with given properties. -/
structure IndicesHold (s : Session σ W) (m : Model σ W) (known : Uuid → Option Properties) :
    Prop where
  /-- The indices are those that the model defines, in order. -/
  definitions : (s.indicesOf m).map (·.definition) = m.indices
  /-- Each of them holds the values. -/
  holds : ∀ x ∈ s.indicesOf m, x.Holds m known

/-- The indices of the model hold the values of the items that were written and not removed
since. -/
def IndicesCurrent (s : Session σ W) (m : Model σ W) : Prop := s.IndicesHold m (s.lastWritten? m)

theorem indicesOf_mapIndices (s : Session σ W) (m : Model σ W)
    (f : IndexDefinition → SortedIndex → SortedIndex) :
    (s.mapIndices m f).indicesOf m =
      (s.indicesOf m).map fun x => { x with content := f x.definition x.content } := by
  rw [mapIndices, indicesOf_setIndices, if_pos rfl]

/-- Changing the content of the indices changes what they hold. -/
theorem IndicesHold.map {s : Session σ W} {m : Model σ W} {known known' : Uuid → Option Properties}
    {f : IndexDefinition → SortedIndex → SortedIndex} (h : s.IndicesHold m known)
    (content : ∀ x : ModelIndex, x.Holds m known →
      ModelIndex.Holds { x with content := f x.definition x.content } m known') :
    (s.mapIndices m f).IndicesHold m known' where
  definitions := by
    rw [indicesOf_mapIndices, List.map_map]
    exact h.definitions
  holds x hx := by
    rw [indicesOf_mapIndices] at hx
    obtain ⟨y, hy, rfl⟩ := List.mem_map.1 hx
    exact content y (h.holds y hy)

variable {s t : Session σ W} {m : Model σ W} {known : Uuid → Option Properties}

theorem IndicesHold.updateIndices (h : s.IndicesHold m known) (id : Uuid) (bag : Properties) :
    (s.updateIndices m id bag).IndicesHold m
      fun other => if other = id then some bag else known other := by
  refine h.map fun x hx => ⟨hx.comparison_eq, hx.type_eq, ?_⟩
  refine (hx.represents.insert id (m.indexedValue x.definition bag)).congr fun other => ?_
  split <;> rfl

theorem IndicesHold.removeFromIndices (h : s.IndicesHold m known) (id : Uuid) :
    (s.removeFromIndices m id).IndicesHold m
      fun other => if other = id then none else known other := by
  refine h.map fun x hx => ⟨hx.comparison_eq, hx.type_eq, ?_⟩
  refine (hx.represents.remove id).congr fun other => ?_
  split <;> rfl

theorem IndicesHold.clearIndices (h : s.IndicesHold m known) :
    (s.clearIndices m).IndicesHold m fun _ => none :=
  h.map fun _ hx => ⟨hx.comparison_eq, hx.type_eq, .of_nil rfl⟩

theorem IndicesHold.congr (h : s.IndicesHold m known) (eq : t.indicesOf m = s.indicesOf m) :
    t.IndicesHold m known := ⟨eq ▸ h.definitions, eq ▸ h.holds⟩

/-- At first all indices are empty. -/
theorem indicesHold_start (store : W) (notes : σ) (identities : Nat → Uuid) (m : Model σ W) :
    (Population.start store notes identities : Population σ W).session.IndicesHold m
      fun _ => none := by
  have fresh : (Population.start store notes identities : Population σ W).session.indicesOf m =
      m.indices.map ModelIndex.fresh := rfl
  refine ⟨by rw [fresh, List.map_map]; exact List.map_id _, ?_⟩
  rw [fresh]
  intro x hx
  obtain ⟨d, -, rfl⟩ := List.mem_map.1 hx
  exact ⟨rfl, rfl, .of_nil rfl⟩

/-! ## What was last written -/

theorem lastWritten?_log (s : Session σ W) (step : Step) (m : Model σ W) (id : Uuid) :
    (s.log step).lastWritten? m id = trackWritten m id (s.lastWritten? m id) step := by
  simp [log, lastWritten?]

/-- No quiet step writes or removes a record. -/
theorem foldl_trackWritten_quiet {steps : List Step} (quiet : ∀ step ∈ steps, step.isQuiet = true)
    (m : Model σ W) (id : Uuid) (known : Option Properties) :
    steps.foldl (trackWritten m id) known = known := by
  induction steps with
  | nil => rfl
  | cons step steps ih =>
    obtain ⟨hs, hr⟩ := List.forall_mem_cons.1 quiet
    have kept : trackWritten m id known step = known := by
      cases step <;> first | rfl | exact absurd hs (by simp [Step.isQuiet])
    rw [List.foldl_cons, kept]
    exact ih hr

theorem Quiet.lastWritten?_eq (h : s.Quiet t) (m : Model σ W) :
    t.lastWritten? m = s.lastWritten? m := by
  obtain ⟨steps, notes, quiet, rfl⟩ := h
  funext id
  simp only [lastWritten?, List.foldl_append]
  exact foldl_trackWritten_quiet quiet m id _

/-- A write that succeeds counts from then on. -/
theorem lastWritten?_afterWrite_ok (s : Session σ W) (i : Item σ W) (id : Uuid)
    (answer : (i.writeUnder id s.store).1 = .ok ()) :
    (s.afterWrite i id).lastWritten? i.model =
      fun other => if other = id then some i.properties else s.lastWritten? i.model other := by
  funext other
  rw [afterWrite, lastWritten?_log, answer]
  simp only [Except.isOk, Except.toBool, trackWritten, true_and, eq_comm (a := id)]
  rfl

/-- A write that fails does not count. -/
theorem lastWritten?_afterWrite_error (s : Session σ W) (i : Item σ W) (id : Uuid)
    {e : StorageError} (answer : (i.writeUnder id s.store).1 = .error e) (m : Model σ W) :
    (s.afterWrite i id).lastWritten? m = s.lastWritten? m := by
  funext other
  rw [afterWrite, lastWritten?_log, answer]
  rfl

/-- From a removal on that succeeds, the item does not count as written. -/
theorem lastWritten?_afterPurge_ok (s : Session σ W) (i : Item σ W) (id : Uuid)
    (answer : (i.purgeUnder id s.store).1 = .ok ()) :
    (s.afterPurge i id).lastWritten? i.model =
      fun other => if other = id then none else s.lastWritten? i.model other := by
  funext other
  rw [afterPurge, lastWritten?_log, answer]
  simp only [Except.isOk, Except.toBool, trackWritten, true_and, eq_comm (a := id)]
  rfl

theorem lastWritten?_afterPurge_error (s : Session σ W) (i : Item σ W) (id : Uuid)
    {e : StorageError} (answer : (i.purgeUnder id s.store).1 = .error e) (m : Model σ W) :
    (s.afterPurge i id).lastWritten? m = s.lastWritten? m := by
  funext other
  rw [afterPurge, lastWritten?_log, answer]
  rfl

theorem lastWritten?_afterRead (s : Session σ W) (i : Item σ W) (id : Uuid) (m : Model σ W) :
    (s.afterRead i id).lastWritten? m = s.lastWritten? m := by
  funext other
  rw [afterRead, lastWritten?_log]
  rfl

/-! ## Operations keep indices current -/

theorem IndicesCurrent.of_eq (h : s.IndicesCurrent m) (indices : t.indicesOf m = s.indicesOf m)
    (written : t.lastWritten? m = s.lastWritten? m) : t.IndicesCurrent m := by
  unfold IndicesCurrent
  rw [written]
  exact h.congr indices

theorem IndicesCurrent.quiet (h : s.IndicesCurrent m) (quiet : s.Quiet t) : t.IndicesCurrent m :=
  h.of_eq (quiet.indicesOf_eq m) (quiet.lastWritten?_eq m)

/-- The write of a record and the update of the indices together keep the indices current. -/
theorem IndicesCurrent.write {i : Item σ W} (h : s.IndicesCurrent i.model) (id : Uuid)
    (answer : (i.writeUnder id s.store).1 = .ok ()) :
    (((s.afterWrite i id).log .index).updateIndices i.model id i.properties).IndicesCurrent
      i.model := by
  have written : (((s.afterWrite i id).log .index).updateIndices i.model id
      i.properties).lastWritten? i.model =
      fun other => if other = id then some i.properties else s.lastWritten? i.model other := by
    rw [← lastWritten?_afterWrite_ok s i id answer]
    funext other
    exact lastWritten?_log _ .index i.model other
  unfold IndicesCurrent
  rw [written]
  -- Up to here the indices are behind by this write.
  have before : ((s.afterWrite i id).log .index).IndicesHold i.model (s.lastWritten? i.model) :=
    h.congr rfl
  exact before.updateIndices id i.properties

/-- So do the removal of a record and of the entries in the indices. -/
theorem IndicesCurrent.purge {i : Item σ W} (h : s.IndicesCurrent i.model) (id : Uuid)
    (answer : (i.purgeUnder id s.store).1 = .ok ()) :
    (((s.afterPurge i id).log .unindex).removeFromIndices i.model id).IndicesCurrent i.model := by
  have written : (((s.afterPurge i id).log .unindex).removeFromIndices i.model id).lastWritten?
      i.model = fun other => if other = id then none else s.lastWritten? i.model other := by
    rw [← lastWritten?_afterPurge_ok s i id answer]
    funext other
    exact lastWritten?_log _ .unindex i.model other
  unfold IndicesCurrent
  rw [written]
  -- Up to here the indices are behind by this removal.
  have before : ((s.afterPurge i id).log .unindex).IndicesHold i.model (s.lastWritten? i.model) :=
    h.congr rfl
  exact before.removeFromIndices id

end Session

/-- Whatever is done with an item, and however it ends, the indices of its model stay current. -/
theorem Session.kept_indicesCurrent (m : Model σ W) :
    Session.Kept (·.model = m) fun s => s.IndicesCurrent m where
  quiet current quiet := current.quiet quiet
  mint current := current.of_eq rfl rfl
  read i id current := current.of_eq rfl (lastWritten?_afterRead _ i id m)
  write id model checked current answer := by
    rw [← checked.rewritten.model_eq.trans model] at current ⊢
    exact current.write id answer
  writeRefused id model checked current answer :=
    current.of_eq rfl (lastWritten?_afterWrite_error _ _ id answer m)
  purge id model events current answer := by
    rw [← events.model_eq.trans model] at current ⊢
    exact current.purge id answer
  purgeRefused id model events current answer :=
    current.of_eq rfl (lastWritten?_afterPurge_error _ _ id answer m)

namespace Population

/-- After every run, the indices hold what was last written. -/
theorem indicesCurrent_run (m : Model σ W) (store : W) (notes : σ) (identities : Nat → Uuid)
    (actions : List (Action W)) :
    ((start store notes identities).run m actions).session.IndicesCurrent m := by
  have first : (start store notes identities : Population σ W).Uniform m := by
    simp [Uniform, start]
  have all : ((start store notes identities).run m actions).Uniform m ∧
      ((start store notes identities).run m actions).session.IndicesCurrent m := by
    refine run_keeps (K := fun p => p.Uniform m ∧ p.session.IndicesCurrent m) ?_
      ⟨first, Session.indicesHold_start store notes identities m⟩ actions
    rintro p a ⟨uniform, current⟩
    exact ⟨uniform_act a uniform, session_act (Session.kept_indicesCurrent m) a uniform current⟩
  exact all.2

end Population

end EntityStore
