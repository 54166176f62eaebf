import EntityStore.Proofs.Model
import EntityStore.Proofs.Schema.Declared
import EntityStore.Proofs.Schema.Merge
import EntityStore.Storage.Memory
import Mathlib.Data.List.Nodup

set_option autoImplicit false

/-! # What a model inherits

A model inherits the declarations of all models below it, down to the root, and may declare anything
again. `Model.members_of_lineage` tells what comes out for any number of levels: for each name, each
event and each option, the last model that declares it decides, properties keep the places of their
first declarations, and the policy for unsaved changes is that of the last model that gives one.
Only the context of the last compilation counts, where no model gives a policy. -/

namespace EntityStore

variable {σ W : Type}

theorem eraseDups_of_nodup {l : List String} (h : l.Nodup) : l.eraseDups = l := by
  induction l with
  | nil => rfl
  | cons a l ih =>
    obtain ⟨fresh, rest⟩ := List.nodup_cons.1 h
    have others : (l.filter fun b => !b == a) = l := by
      refine List.filter_eq_self.2 fun b hb => ?_
      simpa using fun same : b = a => fresh (same ▸ hb)
    rw [List.eraseDups_cons, others, ih rest]

/-- Behind names that are listed, the ones that are new are listed. -/
theorem eraseDups_append_of_nodup (l : List String) {m : List String} (h : m.Nodup) :
    (l ++ m).eraseDups = l.eraseDups ++ m.filter fun name => name ∉ l.eraseDups := by
  have fresh : m.removeAll l = m.filter fun name => name ∉ l.eraseDups := by
    simp [List.removeAll, List.mem_eraseDups]
  rw [List.eraseDups_append, fresh, eraseDups_of_nodup (h.filter _)]

namespace Model

/-- A model, and the drafts of it and of all models from which it inherits, its own one first. The
root has no draft. -/
inductive Lineage : List (Draft σ) → Model σ W → Prop
  | root (context : ModelContext W) : Lineage [] (.root context)
  | compile {drafts : List (Draft σ)} {base m : Model σ W} (context : ModelContext W) (handle : Nat)
      (name : String) (draft : Draft σ) (adapter : Option (Adapter W))
      (before : Lineage drafts base)
      (ok : compile context handle name draft base adapter = .ok m) : Lineage (draft :: drafts) m

/-- The names of properties in the order in which the drafts of a lineage declare them first. -/
def firstDeclared (drafts : List (Draft σ)) : List String :=
  (drafts.reverse.flatMap fun d => d.properties.map (·.1)).eraseDups

theorem firstDeclared_cons (d : Draft σ) (drafts : List (Draft σ))
    (nodup : (d.properties.map (·.1)).Nodup) :
    firstDeclared (d :: drafts) = firstDeclared drafts ++
      (d.properties.map (·.1)).filter fun name => name ∉ firstDeclared drafts := by
  unfold firstDeclared
  rw [List.reverse_cons, List.flatMap_append, ← eraseDups_append_of_nodup _ nodup]
  simp

/-- What the schema of a model has from the drafts of its lineage. -/
structure Lineage.Resolved (drafts : List (Draft σ)) (s : Schema σ) : Prop where
  /-- The properties are in the order of their first declarations. -/
  names_eq : s.properties.names = firstDeclared drafts
  /-- A property is that of the last draft that declares it. -/
  property_eq : ∀ name, s.properties.get? name = drafts.findSome? (·.property? name)
  /-- So is a computed property. -/
  computed_eq : ∀ name, s.computed.get? name = drafts.findSome? (·.computed? name)
  /-- So is a method. -/
  method_eq : ∀ name, s.methods.get? name = drafts.findSome? (·.method? name)
  /-- So is the code for an event. -/
  hook_eq : ∀ event, s.hooks event = drafts.findSome? (·.hook? event)
  /-- So is the policy for unsaved changes. -/
  policy_eq : s.options.onUnsaved = drafts.findSome? Draft.policy?
  /-- So is another option. -/
  extra_eq : ∀ name, s.options.extra.get? name = drafts.findSome? (·.extra? name)

/-- One more draft goes before those that are there. -/
theorem Lineage.Resolved.merge {drafts : List (Draft σ)} {d : Draft σ} {base own : Schema σ}
    (h : Resolved drafts base) (declares : d.Declares own) :
    Resolved (d :: drafts) (base.merge own) where
  names_eq := by
    have nodup : (d.properties.map (·.1)).Nodup := declares.names_eq ▸ own.properties.nodup
    rw [firstDeclared_cons d drafts nodup, ← h.names_eq, ← declares.names_eq]
    exact Section.names_merge base.properties own.properties
  property_eq name := by
    rw [findSome?_cons_eq, ← h.property_eq, ← declares.property_eq]
    exact Section.get?_merge base.properties own.properties name
  computed_eq name := by
    rw [findSome?_cons_eq, ← h.computed_eq, ← declares.computed_eq]
    exact Section.get?_merge base.computed own.computed name
  method_eq name := by
    rw [findSome?_cons_eq, ← h.method_eq, ← declares.method_eq]
    exact Section.get?_merge base.methods own.methods name
  hook_eq event := by
    rw [findSome?_cons_eq, ← h.hook_eq, ← declares.hook_eq, Schema.hooks_merge]
  policy_eq := by
    rw [findSome?_cons_eq, ← h.policy_eq, ← declares.policy_eq]
    exact Options.onUnsaved_merge base.options own.options
  extra_eq name := by
    rw [findSome?_cons_eq, ← h.extra_eq, ← declares.extra_eq]
    exact Options.get?_merge base.options own.options name

theorem Lineage.resolved {drafts : List (Draft σ)} {m : Model σ W} (h : Lineage drafts m) :
    Resolved drafts m.schema := by
  induction h with
  | root context => exact ⟨rfl, fun _ => rfl, fun _ => rfl, fun _ => rfl, fun _ => rfl, rfl,
      fun _ => rfl⟩
  | compile context handle name draft adapter before ok ih =>
    have declares := Draft.declares_normalize (normalize_of_compile ok)
    obtain ⟨-, -, rfl⟩ := compile_eq_ok ok
    exact ih.merge declares

/-- The members of every model. The drafts of the model and of all those from which it inherits are
gone through from the model down. The first one that declares a property, a computed property, a
method, code for an event or an option decides about it, and the first one that gives a policy for
unsaved changes gives that of the model; if none does, it is the one of the context in which the
model itself was compiled. The properties, and the steps of the pipeline, are in the order in which
the drafts declare them for the first time, the lowest draft first, and no name occurs twice. So it
does not matter how the levels are put together: merging schemas is associative, and the empty
schema changes nothing. -/
theorem members_of_lineage {drafts : List (Draft σ)} {base m : Model σ W} {context : ModelContext W}
    {handle : Nat} {name : String} {draft : Draft σ} {adapter : Option (Adapter W)}
    (before : Lineage drafts base)
    (ok : compile context handle name draft base adapter = .ok m) :
    (∀ name, m.schema.properties.get? name = (draft :: drafts).findSome? (·.property? name)) ∧
    (∀ name, m.schema.computed.get? name = (draft :: drafts).findSome? (·.computed? name)) ∧
    (∀ name, m.schema.methods.get? name = (draft :: drafts).findSome? (·.method? name)) ∧
    (∀ event, m.schema.hooks event = (draft :: drafts).findSome? (·.hook? event)) ∧
    (∀ name, m.schema.options.extra.get? name = (draft :: drafts).findSome? (·.extra? name)) ∧
    m.onUnsaved = ((draft :: drafts).findSome? Draft.policy?).getD context.onUnsaved ∧
    m.schema.properties.names = firstDeclared (draft :: drafts) ∧
    m.pipeline.steps.map (fun s => (s.name, s.property)) = m.schema.properties.entries ∧
    m.pipeline.names = firstDeclared (draft :: drafts) ∧ m.pipeline.names.Nodup ∧
    (∀ a b c : Schema σ, (a.merge b).merge c = a.merge (b.merge c)) ∧
    ∀ s : Schema σ, Schema.merge {} s = s ∧ s.merge {} = s := by
  have resolved := (Lineage.compile context handle name draft adapter before ok).resolved
  obtain ⟨-, -, rfl⟩ := compile_eq_ok ok
  have steps (properties : Section Property) :
      (Pipeline.ofSection properties).steps.map (fun s => (s.name, s.property)) =
        properties.entries := by
    simp [Pipeline.ofSection, Function.comp_def]
  have names (properties : Section Property) :
      (Pipeline.ofSection properties).names = properties.names := by
    simp [Pipeline.names, Pipeline.ofSection, Section.names]
  refine ⟨resolved.property_eq, resolved.computed_eq, resolved.method_eq, resolved.hook_eq,
    resolved.extra_eq, ?_, resolved.names_eq, steps _, ?_, ?_, Schema.merge_assoc, fun s => ?_⟩
  · unfold onUnsaved
    rw [resolved.policy_eq]
  · rw [names]
    exact resolved.names_eq
  · rw [names]
    exact Section.nodup _
  · exact ⟨s.empty_merge, s.merge_empty⟩

/-! A device has a label and a serial number, and its unsaved changes are only worth a warning. A
sensor is a device with a unit, and its label is in upper case; a probe is a sensor with a depth. -/

/-- Devices, sensors and probes are kept in memory. -/
def deviceContext : ModelContext Memory := { adapter := Memory.adapter 1 true }

/-- A device has a label and a serial number. -/
def deviceDraft : Draft Unit :=
  { properties := [("label", {}), ("serial", { typeName := "integer" })]
    options := [("onUnsaved", .string "warn"), ("color", .string "red")] }

/-- The model of devices. -/
def deviceModel : Model Unit Memory :=
  (Model.compile deviceContext 1 "Device" deviceDraft (.root deviceContext) none).toOption.get
    (by decide +kernel)

/-- A sensor has a unit, and declares the label again. -/
def sensorDraft : Draft Unit :=
  { properties := [("unit", {}), ("label", { upperCase := true })]
    options := [("color", .string "blue")] }

/-- The model of sensors, which inherits from that of devices. -/
def sensorModel : Model Unit Memory :=
  (Model.compile deviceContext 2 "Sensor" sensorDraft deviceModel none).toOption.get
    (by decide +kernel)

theorem sensorModel_lineage : sensorModel.Lineage [sensorDraft, deviceDraft] :=
  .compile deviceContext 2 "Sensor" sensorDraft none
    (.compile deviceContext 1 "Device" deviceDraft none (.root deviceContext)
      (Except.eq_ok_get _ _))
    (Except.eq_ok_get _ _)

/-- A probe has a depth. -/
def probeDraft : Draft Unit := { properties := [("depth", { typeName := "number" })] }

/-- The model of probes, which inherits from that of sensors. -/
def probeModel : Model Unit Memory :=
  (Model.compile deviceContext 3 "Probe" probeDraft sensorModel none).toOption.get
    (by decide +kernel)

/-- A probe has the label of a sensor at the place that it has for a device, and the policy of a
device. -/
theorem members_of_lineage_probe :
    sensorModel.Lineage [sensorDraft, deviceDraft] ∧
      compile deviceContext 3 "Probe" probeDraft sensorModel none = .ok probeModel ∧
      probeModel.pipeline.names = ["label", "serial", "unit", "depth"] ∧
      (probeModel.schema.properties.get? "label").map (·.upperCase) = some true ∧
      probeModel.onUnsaved = .warn := by
  have ok : compile deviceContext 3 "Probe" probeDraft sensorModel none = .ok probeModel :=
    Except.eq_ok_get _ _
  obtain ⟨property, -, -, -, -, policy, -, -, names, -⟩ :=
    members_of_lineage sensorModel_lineage ok
  refine ⟨sensorModel_lineage, ok, ?_, ?_, ?_⟩
  · rw [names]
    decide +kernel
  · rw [property]
    decide +kernel
  · rw [policy]
    decide +kernel

end Model

end EntityStore
