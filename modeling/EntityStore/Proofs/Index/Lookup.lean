import EntityStore.Proofs.Index.Current

set_option autoImplicit false

/-! # Looking items up

A look-up by an index gives the same answer as going through all items that are stored: it finds an
item if and only if the properties with which it was last written pass the comparison. That holds
after every run of a population, since the indices are current then (`Index.Current`). -/

namespace EntityStore

variable {σ W : Type}

namespace Session

variable {s : Session σ W} {m : Model σ W} {known : Uuid → Option Properties}

/-- The index for a property and a comparison is the one that the model defines for them. -/
theorem IndicesHold.find?_isFor (h : s.IndicesHold m known) (property : String) (c : Comparison) :
    m.indices.find? (·.isFor property c) =
      ((s.indicesOf m).find? fun x => x.definition.isFor property c).map (·.definition) := by
  rw [← h.definitions, List.find?_map]
  rfl

/-- What a look-up answers when the indices hold the values of items with given properties. -/
theorem IndicesHold.find_eq (h : s.IndicesHold m known) (property : String) (c : Comparison)
    (operands : List Value) :
    match m.indices.find? (·.isFor property c) with
    | none => s.find m property c operands = .error (.index (.absent m.name c property))
    | some d =>
      if operands.length < c.arity then
        s.find m property c operands = .error (.index (.operands c property))
      else
        ∃ ids, s.find m property c operands = .ok ids ∧ ids.Nodup ∧
          ∀ id, id ∈ ids ↔ ∃ bag, known id = some bag ∧
            d.type.compare c (m.indexedValue d bag) operands = true := by
  rw [h.find?_isFor]
  unfold find
  cases hx : (s.indicesOf m).find? fun x => x.definition.isFor property c with
  | none => rfl
  | some x =>
    have holds := h.holds x (List.mem_of_find?_eq_some hx)
    have wanted : x.definition.isFor property c = true := by simpa using List.find?_some hx
    have comparison : x.content.comparison = c := by
      rw [holds.comparison_eq]
      simp only [IndexDefinition.isFor, Bool.and_eq_true, beq_iff_eq] at wanted
      exact wanted.2
    simp only [Option.map_some]
    split
    · rfl
    · obtain ⟨nodup, mem⟩ := holds.represents.find operands
      refine ⟨_, rfl, nodup, fun id => ?_⟩
      rw [mem id, comparison, holds.type_eq]
      simp only [Option.map_eq_some_iff]
      constructor
      · rintro ⟨_, ⟨bag, written, rfl⟩, passes⟩
        exact ⟨bag, written, passes⟩
      · rintro ⟨bag, written, passes⟩
        exact ⟨_, ⟨bag, written, rfl⟩, passes⟩

end Session

/-- After every run of a population, a look-up by an index finds exactly the items whose properties,
as they were last written and not removed since, pass the comparison in the order of the type of
the index, each of them once. Without such an index, or with too few operands, it fails. -/
theorem find_eq_scan (m : Model σ W) (store : W) (notes : σ) (identities : Nat → Uuid)
    (actions : List (Action W)) (property : String) (c : Comparison) (operands : List Value) :
    let s := ((Population.start store notes identities).run m actions).session
    match m.indices.find? (·.isFor property c) with
    | none => s.find m property c operands = .error (.index (.absent m.name c property))
    | some d =>
      if operands.length < c.arity then
        s.find m property c operands = .error (.index (.operands c property))
      else
        ∃ ids, s.find m property c operands = .ok ids ∧ ids.Nodup ∧
          ∀ id, id ∈ ids ↔ ∃ bag, s.lastWritten? m id = some bag ∧
            d.type.compare c (d.reduce ((m.value? property bag).getD .null)) operands = true := by
  intro s
  have answer := (Population.indicesCurrent_run m store notes identities actions).find_eq property c
    operands
  split at answer
  · exact answer
  · next d found =>
    have wanted : d.isFor property c = true := by simpa using List.find?_some found
    have property_eq : d.property = property := by
      simp only [IndexDefinition.isFor, Bool.and_eq_true, beq_iff_eq] at wanted
      exact wanted.1
    simp only [Model.indexedValue, property_eq] at answer
    exact answer

end EntityStore
