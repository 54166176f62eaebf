import EntityStore.Proofs.Index.Inherited
import EntityStore.Proofs.Population
import EntityStore.Proofs.Storage.Key

set_option autoImplicit false

/-! # The list of the indices of a model

A model lists the indices of its base in their order, its own declarations in the places of those
that it declares again, and behind them those that are new. `Model.indices_listed` tells so for
every compiled model, together with what follows for any number of levels: each index is there once,
makes a comparison for which there are indices, and has a member of the schema. The entries are not
part of the model but of a session, where every model has its own ones, which are empty at first. -/

namespace EntityStore

variable {σ W : Type}

/-! ## Keys -/

theorem Comparison.name_injective : Function.Injective Comparison.name := by
  intro c c' same
  cases c <;> cases c' <;> first | rfl | exact absurd same (by decide)

namespace IndexDefinition

theorem toList_keyOf (property : String) (c : Comparison) :
    (keyOf property c).toList = property.toList ++ '_' :: c.name.toList := by
  simp [keyOf, toString, String.toList_append]

/-- A key tells the property and the comparison, whatever the property is called: there is no
underscore in the name of a comparison. -/
theorem keyOf_injective {property property' : String} {c c' : Comparison}
    (h : keyOf property c = keyOf property' c') : property = property' ∧ c = c' := by
  have unmarked (c : Comparison) : '_' ∉ c.name.toList := by cases c <;> decide
  have same := congrArg String.toList h
  rw [toList_keyOf, toList_keyOf] at same
  obtain ⟨properties, names⟩ := List.append_cons_inj_of_last (unmarked c) (unmarked c') same
  exact ⟨String.toList_injective properties,
    Comparison.name_injective (String.toList_injective names)⟩

/-- Where no two indices are at one place, no two have one key. -/
theorem nodup_keys {l : List IndexDefinition} (h : (l.map place).Nodup) : (l.map key).Nodup := by
  have keys : l.map key = (l.map place).map fun p => keyOf p.1 p.2 := by
    rw [List.map_map]
    rfl
  rw [keys]
  refine h.map fun p q same => ?_
  obtain ⟨property, comparison⟩ := keyOf_injective same
  exact Prod.ext property comparison

end IndexDefinition

/-! ## Places -/

/-- A definition takes the place of the one that is there, or comes last. -/
theorem overrideIndex_eq {known : List IndexDefinition}
    (nodup : (known.map IndexDefinition.place).Nodup) (d : IndexDefinition) :
    overrideIndex known d =
      if d.place ∈ known.map IndexDefinition.place then
        known.map fun k => if k.place = d.place then d else k
      else known ++ [d] := by
  induction known with
  | nil => rfl
  | cons k rest ih =>
    obtain ⟨fresh, others⟩ := List.nodup_cons.1 nodup
    by_cases here : k.place = d.place
    · -- No other index is at this place.
      have kept : (rest.map fun k => if k.place = d.place then d else k) = rest := by
        refine (List.map_congr_left fun e he => if_neg fun same => fresh ?_).trans (List.map_id _)
        exact here.trans same.symm ▸ List.mem_map_of_mem he
      simp [overrideIndex, IndexDefinition.isFor_iff.2 here, here, kept]
    · have differs : k.isFor d.property d.comparison = false := by
        simpa using mt IndexDefinition.isFor_iff.1 here
      have other : d.place ≠ k.place := Ne.symm here
      simp only [overrideIndex, differs, Bool.false_eq_true, if_false, List.map_cons, ih others,
        List.mem_cons, other, false_or, here]
      split <;> rfl

/-- Definitions at different places take the places of those that are there, and the others come
last, in their order. -/
theorem foldl_overrideIndex_eq {own known : List IndexDefinition}
    (nodup : (known.map IndexDefinition.place).Nodup)
    (distinct : (own.map IndexDefinition.place).Nodup) :
    own.foldl overrideIndex known =
      (known.map fun k => (own.find? fun d => d.place = k.place).getD k) ++
        own.filter fun d => d.place ∉ known.map IndexDefinition.place := by
  induction own generalizing known with
  | nil => simp
  | cons d rest ih =>
    obtain ⟨fresh, distinct⟩ := List.nodup_cons.1 distinct
    have unasked : (rest.find? fun e => e.place = d.place) = none := by
      refine List.find?_eq_none.2 fun e he same => fresh ?_
      exact (of_decide_eq_true same) ▸ List.mem_map_of_mem he
    rw [List.foldl_cons, ih (nodup_overrideIndex nodup d) distinct, map_overrideIndex,
      overrideIndex_eq nodup]
    split
    · next present =>
      rw [List.map_map]
      congr 1
      · refine List.map_congr_left fun k hk => ?_
        by_cases here : k.place = d.place
        · simp [here, unasked]
        · have other : d.place ≠ k.place := Ne.symm here
          simp [here, other]
      · rw [List.filter_cons_of_neg (by simpa using present)]
    · next absent =>
      have before : (known.map fun k => (rest.find? fun e => e.place = k.place).getD k) =
          known.map fun k => ((d :: rest).find? fun e => e.place = k.place).getD k := by
        refine List.map_congr_left fun k hk => ?_
        have other : d.place ≠ k.place := fun same => absent (same ▸ List.mem_map_of_mem hk)
        simp [other]
      have behind : (rest.filter fun e => e.place ∉ known.map IndexDefinition.place ++ [d.place]) =
          rest.filter fun e => e.place ∉ known.map IndexDefinition.place := by
        refine List.filter_congr fun e he => ?_
        have other : e.place ≠ d.place := fun same => fresh (same ▸ List.mem_map_of_mem he)
        simp [other]
      rw [List.map_append, before, behind, List.append_assoc,
        List.filter_cons_of_pos (by simpa using absent)]
      simp [unasked]

/-! ## Requests -/

namespace IndexRequest.Gives

variable {own base : Schema σ} {r : IndexRequest} {d : IndexDefinition}

/-- An index is made only for a comparison for which there are indices. -/
theorem indexable (h : r.Gives own base d) : d.comparison ∈ indexable := by
  obtain ⟨c, asked, same⟩ := Option.map_eq_some_iff.1 h.1
  obtain ⟨-, able⟩ := Option.filter_eq_some_iff.1 asked
  have comparison : c = d.comparison := congrArg Prod.snd same
  simpa [comparison] using able

/-- An index is made only for a member of the merged schema. -/
theorem member (h : r.Gives own base d) :
    (base.merge own).properties.contains d.property = true ∨
      (base.merge own).computed.contains d.property = true := by
  obtain ⟨place, resolved, -⟩ := h
  unfold IndexRequest.resolve at resolved
  dsimp only at resolved
  split at resolved
  · exact absurd resolved (by simp)
  · next known =>
    simp only [property_of_place? place, Option.orElse_eq_orElse, Option.orElse_eq_or,
      Bool.and_eq_true, Option.isNone_iff_eq_none, not_and_or] at known
    simp only [Schema.merge, Section.contains, Section.get?_merge, Option.orElse_eq_orElse,
      Option.orElse_eq_or]
    exact known.imp Option.isSome_iff_ne_none.2 Option.isSome_iff_ne_none.2

end IndexRequest.Gives

namespace Model

/-- What holds of the indices of all compiled models. -/
structure Listed (m : Model σ W) : Prop where
  /-- No two of them are for the same property and comparison. -/
  nodup : (m.indices.map IndexDefinition.place).Nodup
  /-- There are indices for the comparison. -/
  able : ∀ d ∈ m.indices, d.comparison ∈ indexable
  /-- The schema has the member. -/
  member : ∀ d ∈ m.indices, m.schema.properties.contains d.property = true ∨
    m.schema.computed.contains d.property = true

theorem Compiled.listed {keyBase : String} {m : Model σ W} (h : m.Compiled keyBase) :
    m.Listed := by
  induction h with
  | root context => exact ⟨List.nodup_nil, by simp [Model.root], by simp [Model.root]⟩
  | @compile keyBase base m context handle name draft adapter before ok ih =>
    obtain ⟨-, clean, rfl⟩ := compile_eq_ok ok
    obtain ⟨gives, distinct⟩ := collectIndices_definitions clean
    refine ⟨nodup_inheritIndices ih.nodup _ _, fun d hd => ?_, fun d hd => ?_⟩
    · rcases mem_inheritIndices ih.nodup hd with declared | ⟨d, inherited, rfl, -⟩
      · obtain ⟨r, -, given⟩ := requestAt?_of_mem gives distinct declared
        exact given.indexable
      · exact ih.able d inherited
    · rcases mem_inheritIndices ih.nodup hd with declared | ⟨d, inherited, rfl, -⟩
      · obtain ⟨r, -, given⟩ := requestAt?_of_mem gives distinct declared
        exact given.member
      · -- What the base has, the merged schema has.
        have known := ih.member d inherited
        simp only [Schema.merge, Section.contains_merge, Bool.or_eq_true]
        exact known.imp .inr .inr

end Model

/-! ## Entries -/

/-- Whatever is done with the items of a model, the indices of a model with another handle keep
their entries. -/
theorem Session.kept_indicesOf {m other : Model σ W} (apart : m.handle ≠ other.handle)
    (l : List ModelIndex) :
    Session.Kept (·.model = other) fun s : Session σ W => s.indicesOf m = l where
  quiet kept quiet := (quiet.indicesOf_eq m).trans kept
  mint kept := kept
  read _ _ kept := kept
  write _ model checked kept _ := by
    have same := checked.rewritten.model_eq.trans model
    rw [updateIndices, mapIndices, indicesOf_setIndices, if_neg (same ▸ apart)]
    exact kept
  writeRefused _ _ _ kept _ := kept
  purge _ model events kept _ := by
    have same := events.model_eq.trans model
    rw [removeFromIndices, mapIndices, indicesOf_setIndices, if_neg (same ▸ apart)]
    exact kept
  purgeRefused _ _ _ kept _ := kept

namespace Population

theorem indicesOf_run {m other : Model σ W} (apart : m.handle ≠ other.handle)
    {p : Population σ W} (uniform : p.Uniform other) (actions : List (Action W)) :
    (p.run other actions).session.indicesOf m = p.session.indicesOf m := by
  have all : (p.run other actions).Uniform other ∧
      (p.run other actions).session.indicesOf m = p.session.indicesOf m := by
    refine run_keeps (K := fun q => q.Uniform other ∧
      q.session.indicesOf m = p.session.indicesOf m) ?_ ⟨uniform, rfl⟩ actions
    rintro q a ⟨uniform, kept⟩
    exact ⟨uniform_act a uniform, session_act (Session.kept_indicesOf apart _) a uniform kept⟩
  exact all.2

end Population

namespace Model

/-- The indices of every compiled model. Its own declarations stand for one definition each, in the
order of the properties and then of the section of indices. The list is that of the base, where a
definition of its own is in the place of the one for the same property and comparison, and the
others keep all but the type, which is that of the member if the model declares it again; behind
them are the definitions that the base does not have. So no two indices are for the same property
and comparison, and no two have the same key; there are indices for every comparison; and every
property is a property or computed property of the merged schema. In a session the model has one
empty index for each definition, as long as nothing is entered under its own handle: whatever is
done with items of models with other handles, as that of the base, does not count. -/
theorem indices_listed {keyBase name : String} {context : ModelContext W} {handle : Nat}
    {draft : Draft σ} {base m : Model σ W} {adapter : Option (Adapter W)}
    (before : base.Compiled keyBase)
    (ok : compile context handle name draft base adapter = .ok m) :
    let level := Level.ofDraft name draft base
    m.schema = base.schema.merge level.own ∧
    (∃ declared, List.Forall₂ (IndexRequest.Gives level.own base.schema) level.requests declared ∧
      m.indices =
        (base.indices.map fun k =>
          (declared.find? fun d => d.place = k.place).getD (k.adapt level.own)) ++
        declared.filter fun d => d.place ∉ base.indices.map IndexDefinition.place) ∧
    (m.indices.map IndexDefinition.place).Nodup ∧ (m.indices.map IndexDefinition.key).Nodup ∧
    (∀ d ∈ m.indices, d.comparison ∈ indexable ∧
      (m.schema.properties.contains d.property = true ∨
        m.schema.computed.contains d.property = true)) ∧
    (∀ s : Session σ W, s.indices m.handle = none →
      s.indicesOf m = m.indices.map ModelIndex.fresh ∧
      ∀ x ∈ s.indicesOf m, x.content.entries = []) ∧
    ∀ other : Model σ W, m.handle ≠ other.handle → ∀ p : Population σ W, p.Uniform other →
      ∀ actions, (p.run other actions).session.indicesOf m = p.session.indicesOf m := by
  intro level
  have all := (Compiled.compile context handle name draft adapter before ok).listed
  refine ⟨?_, ?_, all.nodup, IndexDefinition.nodup_keys all.nodup,
    fun d hd => ⟨all.able d hd, all.member d hd⟩, fun s unused => ?_,
    fun other apart p uniform actions => Population.indicesOf_run apart uniform actions⟩
  · obtain ⟨-, -, rfl⟩ := compile_eq_ok ok
    rfl
  · obtain ⟨-, clean, rfl⟩ := compile_eq_ok ok
    obtain ⟨gives, distinct⟩ := collectIndices_definitions clean
    refine ⟨_, gives, ?_⟩
    have inherited : ((base.indices.map (·.adapt level.own)).map IndexDefinition.place).Nodup := by
      rw [map_adapt]
      exact before.listed.nodup
    have listed := foldl_overrideIndex_eq inherited distinct
    rw [← inheritIndices_eq, map_adapt, List.map_map] at listed
    exact listed
  · have fresh : s.indicesOf m = m.indices.map ModelIndex.fresh := by
      rw [Session.indicesOf, unused, Option.getD_none]
    refine ⟨fresh, fun x hx => ?_⟩
    rw [fresh] at hx
    obtain ⟨d, -, rfl⟩ := List.mem_map.1 hx
    rfl

/-! A task has an index on its due date and two on its rank. An errand declares the one for the
equality of ranks again, with a reducer, and adds one on its place. -/

/-- Tasks and errands are kept in memory. -/
def taskContext : ModelContext Memory := { adapter := Memory.adapter 1 true }

/-- A task has a due date and a rank. -/
def taskDraft : Draft Unit :=
  { properties := [("rank", { typeName := "integer", index := some (.comparisons ["eq", "LT"]) }),
      ("due", { typeName := "date" })]
    indices := [("due", .comparison "gte")] }

/-- The model of tasks. -/
def taskModel : Model Unit Memory :=
  (Model.compile taskContext 1 "Task" taskDraft (.root taskContext) none).toOption.get
    (by decide +kernel)

/-- An errand has a place, and its rank is a text. -/
def errandDraft : Draft Unit :=
  { properties := [("place", { typeName := "uuid", index := some (.enabled true) }),
      ("rank", { typeName := "string" })]
    indices := [("rank", .reduced fun _ => .null)] }

/-- The model of errands, which inherits from that of tasks. -/
def errandModel : Model Unit Memory :=
  (Model.compile taskContext 2 "Errand" errandDraft taskModel none).toOption.get
    (by decide +kernel)

/-- A session of tasks. -/
def taskStart : Population Unit Memory := .start {} () .ofNat

/-- The indices of errands: those of tasks first, the one on equal ranks with a reducer of its own
and the other one on ranks with the type that a rank has now. They are empty whatever is done with
tasks. -/
theorem indices_listed_errand :
    taskModel.Compiled "models" ∧
      compile taskContext 2 "Errand" errandDraft taskModel none = .ok errandModel ∧
      (errandModel.indices.map IndexDefinition.key).Nodup ∧
      errandModel.indices.map (fun d => (d.key, d.type, d.reducer.isSome)) =
        [("rank_eq", .string, true), ("rank_lt", .string, false), ("due_gte", .date, false),
          ("place_eq", .uuid, false)] ∧
      ∀ actions, (taskStart.run taskModel actions).session.indicesOf errandModel =
        errandModel.indices.map ModelIndex.fresh := by
  have before : taskModel.Compiled "models" :=
    .compile taskContext 1 "Task" taskDraft none (.root taskContext) (Except.eq_ok_get _ _)
  have ok : compile taskContext 2 "Errand" errandDraft taskModel none = .ok errandModel :=
    Except.eq_ok_get _ _
  obtain ⟨-, -, -, keys, -, fresh, apart⟩ := indices_listed before ok
  refine ⟨before, ok, keys, by decide +kernel, fun actions => ?_⟩
  have uniform : taskStart.Uniform taskModel := by
    simp [Population.Uniform, taskStart, Population.start]
  rw [apart taskModel (by decide +kernel) taskStart uniform]
  exact (fresh taskStart.session rfl).1

end Model

end EntityStore
