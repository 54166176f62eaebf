import EntityStore.Pipeline
import EntityStore.Proofs.Bag

set_option autoImplicit false

/-! # What pipelines do to single properties

A pipeline goes over all properties of a section. What it makes of one of them depends on this
property alone, and other entries are left alone (`get?_coerce`) or left out (`get?_serialize`,
`get?_deserialize`). -/

namespace EntityStore

@[grind =]
theorem Section.mem_names {α : Type} {s : Section α} {name : String} :
    name ∈ s.names ↔ ∃ a, s.get? name = some a := by
  have absent := @Entries.find?_eq_none_iff α name s.entries
  unfold names get?
  cases h : Entries.find? name s.entries with
  | none => simpa using absent.1 h
  | some a => simpa using mt absent.2 (by simp [h])

/-- What is invalid violates the kind of its type, and nothing else. -/
theorem ScalarType.violations_invalid {t : ScalarType} (typed : t ≠ .any) (p : Property) :
    t.violations p .invalid = [.kind t] := by
  have asked : (Value.isInvalid .invalid && t != .any) = true := by
    rw [bne_iff_ne.2 typed]
    rfl
  exact if_pos asked

namespace Pipeline

variable (sec : Section Property) (name : String)

/-- Going over entries with different names, each of them is brought into form once. -/
theorem get?_foldl_insert (form : String → Property → Value → Value)
    {l : List (String × Property)} (nodup : (l.map (·.1)).Nodup) (bag : Properties) :
    (l.foldl (fun bag e => bag.insert e.1 (form e.1 e.2 ((bag.get? e.1).getD .null))) bag).get?
        name =
      match Entries.find? name l with
      | some p => some (form name p ((bag.get? name).getD .null))
      | none => bag.get? name := by
  induction l generalizing bag with
  | nil => rfl
  | cons e rest ih =>
    obtain ⟨he, hr⟩ := List.nodup_cons.1 nodup
    rw [List.foldl_cons, ih hr]
    by_cases hn : e.1 = name
    · subst hn
      -- No entry after this one has the name again.
      have absent : Entries.find? e.1 rest = none := Entries.find?_eq_none_iff.2 he
      simp [Entries.find?, absent]
    · simp [Entries.find?, hn, Bag.get?_insert, Ne.symm hn]

@[simp]
theorem get?_coerce (defaults : DefaultSource) (bag : Properties) :
    ((ofSection sec).coerce defaults bag).get? name =
      match sec.get? name with
      | some p => some (p.type.coerce p (defaults name p) ((bag.get? name).getD .null))
      | none => bag.get? name := by
  have form := get?_foldl_insert name (fun n p v => p.type.coerce p (defaults n p) v) sec.nodup bag
  unfold coerce ofSection
  simp only [List.foldl_map]
  exact form

/-- Properties without violations meet each of their constraints. -/
theorem violations_eq_nil {sec : Section Property} {bag : Properties}
    (valid : (ofSection sec).violations bag = []) {name : String} {p : Property}
    (declared : sec.get? name = some p) :
    p.type.violations p ((bag.get? name).getD .null) = [] := by
  unfold violations ofSection at valid
  rw [List.flatMap_eq_nil_iff] at valid
  have met := valid _ (List.mem_map.2 ⟨_, Entries.mem_of_find? declared, rfl⟩)
  dsimp only at met
  rwa [List.map_eq_nil_iff] at met

theorem nodup_steps {α : Type} (f : PipelineStep → α) :
    (((ofSection sec).steps.map fun s => (s.name, f s)).map (·.1)).Nodup := by
  rw [ofSection, List.map_map, List.map_map]
  exact sec.nodup

theorem find?_steps {α : Type} (f : PipelineStep → α) :
    Entries.find? name ((ofSection sec).steps.map fun s => (s.name, f s)) =
      (sec.get? name).map fun p =>
        f { name, property := p, type := p.type, restores := p.type.restores } := by
  rw [ofSection, List.map_map]
  exact Entries.find?_map (fun e => f ⟨e.1, e.2, e.2.type, e.2.type.restores⟩) name sec.entries

@[simp]
theorem get?_serialize (binary : Bool) (bag : Properties) :
    ((ofSection sec).serialize binary bag).get? name =
      (sec.get? name).map fun p => p.type.serialize binary ((bag.get? name).getD .null) := by
  rw [serialize, Bag.get?_ofList (nodup_steps sec _), find?_steps]

/-- Whether stored values have to be restored only saves work. -/
@[simp]
theorem restore_eq (p : Property) (v : Value) :
    PipelineStep.restore { name, property := p, type := p.type, restores := p.type.restores } v =
      p.type.coerce p none (p.type.deserialize v) := by
  unfold PipelineStep.restore
  dsimp only
  split
  · rfl
  · next h => rw [ScalarType.deserialize_of_not_restores (by simpa using h)]

@[simp]
theorem get?_deserialize (record : Record) :
    ((ofSection sec).deserialize record).get? name = (sec.get? name).map fun p =>
      p.type.coerce p none (p.type.deserialize ((record.get? name).getD .null)) := by
  rw [deserialize, Bag.get?_ofList (nodup_steps sec _), find?_steps]
  simp only [restore_eq]

end Pipeline

end EntityStore
