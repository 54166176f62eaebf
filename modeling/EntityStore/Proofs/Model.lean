import EntityStore.Proofs.Schema.Typed

set_option autoImplicit false

/-! # Compiled models

The models that there can be are the root and those that were compiled from such models
(`Model.Compiled`). Their parts fit together: the pipeline and the accessors are those of the
properties of the schema, which have types, and the keys of items are those of a name that is an
identifier. -/

namespace EntityStore

variable {σ W : Type}

/-- A member that is a property is one of the schema. -/
theorem Accessor.get?_table_property {s : Schema σ} {name : String} {p : Property}
    (h : (table s).get? name = some (.property p)) : s.properties.get? name = some p := by
  have entered := Bag.mem_of_get?_ofList h
  have declared : (name, p) ∈ s.properties.entries := by simpa using entered
  exact Entries.find?_of_mem s.properties.nodup declared

theorem Except.eq_ok_get {ε α : Type} (e : Except ε α) (h : e.toOption.isSome = true) :
    e = .ok (e.toOption.get h) := by
  cases e with
  | ok a => rfl
  | error e => exact absurd h (by simp [Except.toOption])

namespace Model

/-- A model that can be made with some base of keys: the root, or one that was compiled. -/
inductive Compiled : String → Model σ W → Prop
  | root (context : ModelContext W) : Compiled context.keyBase (.root context)
  | compile {keyBase : String} {base m : Model σ W} (context : ModelContext W) (handle : Nat)
      (name : String) (draft : Draft σ) (adapter : Option (Adapter W))
      (before : Compiled keyBase base)
      (ok : compile context handle name draft base adapter = .ok m) :
      Compiled context.keyBase m

/-- The parts of a model fit together. -/
structure Coherent (keyBase : String) (m : Model σ W) : Prop where
  /-- The name is an identifier. -/
  named : isIdentifier m.name = true
  /-- All properties have types. -/
  typed : m.schema.properties.Typed
  /-- The pipeline is that of the properties. -/
  pipeline_eq : m.pipeline = .ofSection m.schema.properties
  /-- The keys are those of the name. -/
  keys_eq : m.keys = .forModel keyBase m.name
  /-- Members that are properties are those of the schema. -/
  property : ∀ name p, m.accessors.get? name = some (.property p) →
    m.schema.properties.get? name = some p

theorem isIdentifier_of_headProblems {name : String} {base : Model σ W}
    (h : headProblems name base = []) : isIdentifier name = true := by
  unfold headProblems at h
  rw [List.append_eq_nil_iff] at h
  cases named : isIdentifier name with
  | true => rfl
  | false => exact absurd h.1 (by simp [named])

/-- What a model is made of if it can be compiled, and which problems there are not. -/
theorem compile_eq_ok {context : ModelContext W} {handle : Nat} {name : String} {draft : Draft σ}
    {base m : Model σ W} {adapter : Option (Adapter W)}
    (ok : compile context handle name draft base adapter = .ok m) :
    let own := (draft.normalize name base.schema (!base.isRoot)).1
    let schema := base.schema.merge own
    let declared := collectIndices own draft.indices base.schema
    headProblems name base = [] ∧ declared.2 = [] ∧
      m =
        { handle, name, schema
          adapter := adapter.getD context.adapter
          ancestors := (base.handle, base.name) :: base.ancestors
          indices := inheritIndices base.indices declared.1 own
          pipeline := .ofSection schema.properties
          accessors := Accessor.table schema
          keys := .forModel context.keyBase name
          defaultPolicy := context.onUnsaved
          calls := context.calls } := by
  unfold Model.compile at ok
  dsimp only at ok
  split at ok
  · next clean =>
    rw [List.isEmpty_iff, List.append_eq_nil_iff, List.append_eq_nil_iff] at clean
    exact ⟨clean.1.1, clean.2, (Except.ok.inj ok).symm⟩
  · exact absurd ok (by simp)

/-- A model can be compiled only if its draft has no problems. -/
theorem normalize_of_compile {context : ModelContext W} {handle : Nat} {name : String}
    {draft : Draft σ} {base m : Model σ W} {adapter : Option (Adapter W)}
    (ok : compile context handle name draft base adapter = .ok m) :
    (draft.normalize name base.schema (!base.isRoot)).2 = [] := by
  unfold Model.compile at ok
  dsimp only at ok
  split at ok
  · next clean =>
    rw [List.isEmpty_iff, List.append_eq_nil_iff, List.append_eq_nil_iff] at clean
    exact clean.1.2
  · exact absurd ok (by simp)

theorem Compiled.coherent {keyBase : String} {m : Model σ W} (h : m.Compiled keyBase) :
    m.Coherent keyBase := by
  induction h with
  | root context =>
    have named : isIdentifier rootName = true := by decide
    exact ⟨named, Section.Typed.empty, rfl, rfl, fun _ _ h => absurd h (by simp [Model.root])⟩
  | @compile keyBase base m context handle name draft adapter before ok ih =>
    obtain ⟨clean, -, rfl⟩ := compile_eq_ok ok
    -- No problem with the name was found, so it is an identifier.
    exact ⟨isIdentifier_of_headProblems clean,
      ih.typed.merge (draft.typed_normalize name base.schema _), rfl, rfl,
      fun _ _ => Accessor.get?_table_property⟩

end Model

end EntityStore
