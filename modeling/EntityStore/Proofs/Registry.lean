import EntityStore.Proofs.KeyTemplate.Segments
import EntityStore.Proofs.Model
import EntityStore.Proofs.Population
import EntityStore.Proofs.Storage.Depot
import EntityStore.Registry

set_option autoImplicit false

/-! # Items of a registry do not touch each other's records

All models that a registry has ever defined (`Registry.History`) keep their items under keys with
the same base, so the keys of different items lie apart, whatever the base is. In a memory that many
models share, saving or removing an item leaves what is stored under the keys of all others as it
was (`Registry.items_apart`). -/

namespace EntityStore

variable {σ W : Type}

theorem Config.isValid_keyBase {text : String} {config : Config}
    (read : Config.ofText text = .ok config) : Key.isValid config.keyBase = true := by
  unfold ofText at read
  simp only [bind, Except.bind] at read
  split at read
  · exact absurd read (by simp)
  · split at read
    · exact absurd read (by simp)
    · split at read
      · next valid => exact Except.ok.inj read ▸ valid
      · exact absurd read (by simp [throw, throwThe, MonadExceptOf.throw])

namespace Registry

/-- The registry came about with a configuration and has defined given models, the latest first;
those that were replaced are among them. -/
inductive History (config : Config) : Registry σ W → List (Model σ W) → Prop
  | start (adapter : Adapter W) : History config { config, adapter } []
  | define {r r' : Registry σ W} {models : List (Model σ W)} {base m : Model σ W} {handle : Nat}
      {name : String} {draft : Draft σ} {adapter : Option (Adapter W)}
      (before : History config r models)
      (ok : r.define handle name draft base adapter = .ok (m, r')) :
      History config r' (m :: models)

variable {config : Config} {r r' : Registry σ W} {models : List (Model σ W)}

/-- A definition compiles a model and leaves the configuration as it is. -/
theorem define_eq_ok {handle : Nat} {name : String} {draft : Draft σ} {base m : Model σ W}
    {adapter : Option (Adapter W)} (ok : r.define handle name draft base adapter = .ok (m, r')) :
    Model.compile r.context handle name draft base adapter = .ok m ∧
      r' = { r with models := r.models.insert name m } := by
  unfold define at ok
  cases compiled : Model.compile r.context handle name draft base adapter with
  | error e =>
    rw [compiled] at ok
    exact absurd ok (by simp [bind, Except.bind])
  | ok made =>
    rw [compiled] at ok
    obtain ⟨rfl, rfl⟩ := Prod.mk.inj (Except.ok.inj ok)
    exact ⟨rfl, rfl⟩

namespace History

theorem config_eq (h : r.History config models) : r.config = config := by
  induction h with
  | start adapter => rfl
  | define before ok ih =>
    obtain ⟨-, rfl⟩ := define_eq_ok ok
    exact ih

/-- The name of a model is an identifier, and its keys are those of its name below the configured
base. -/
theorem keys_eq (h : r.History config models) {m : Model σ W} (defined : m ∈ models) :
    isIdentifier m.name = true ∧ m.keys = .forModel config.keyBase m.name := by
  induction h with
  | start adapter => exact absurd defined List.not_mem_nil
  | define before ok ih =>
    rcases List.mem_cons.1 defined with rfl | defined
    · obtain ⟨clean, -, rfl⟩ := Model.compile_eq_ok (define_eq_ok ok).1
      rw [← before.config_eq]
      exact ⟨Model.isIdentifier_of_headProblems clean, rfl⟩
    · exact ih defined

end History

end Registry

/-! ## Saving and removing in a memory -/

section Memory

variable {part : W → Option Memory} {memory : Memory} {i j : Item σ W} {s t : Session σ W}
  {r : Except ModelError Unit} {key : String}

/-- Saving an item changes what is said about its own key only. -/
theorem Saving.sameAnswers (h : Saving i s r j t) (serves : i.adapter.Serves part)
    (there : part s.store = some memory) (apart : key ≠ i.model.keys.key (i.identityIn s).1) :
    i.adapter.SameAnswers key s.store t.store := by
  obtain same | ⟨k, events, written⟩ := h.store_cases
  · rw [same]
    exact ⟨rfl, rfl⟩
  · rw [written, Item.writeUnder, events.rewritten.adapter_eq, events.model_eq]
    exact serves.sameAnswers_write there apart _

/-- Removing an item changes what is said about keys below its own one only. -/
theorem Removing.sameAnswers (h : Removing i s r j t) (serves : i.adapter.Serves part)
    (there : part s.store = some memory)
    (apart : Key.isBelow key (i.model.keys.key (i.identityIn s).1) = false) :
    i.adapter.SameAnswers key s.store t.store := by
  obtain same | ⟨k, id, events, named, removed⟩ := h.store_cases
  · rw [same]
    exact ⟨rfl, rfl⟩
  · rw [i.identityIn_eq named] at apart
    rw [removed, Item.purgeUnder, events.rewritten.adapter_eq, events.model_eq]
    exact serves.sameAnswers_purge there apart

end Memory

/-! ## All items of a registry -/

/-- Under every configuration that is accepted, the keys of the items of all models that a registry
has defined are keys, and those of different items lie apart. So in a memory in which any of them
are stored, saving or removing one item leaves the answers for the keys of all others as they
were. -/
theorem Registry.items_apart {text : String} {config : Config}
    (accepted : Config.ofText text = .ok config) {r : Registry σ W} {models : List (Model σ W)}
    (history : r.History config models) {m : Model σ W} (defined : m ∈ models) (id : Uuid) :
    Key.isValid (m.keys.key id) = true ∧
      ∀ m' ∈ models, ∀ id', (m.name, id) ≠ (m'.name, id') →
        m.keys.key id ≠ m'.keys.key id' ∧
        Key.isBelow (m.keys.key id) (m'.keys.key id') = false ∧
        Key.isBelow (m'.keys.key id') (m.keys.key id) = false ∧
        ∀ (a : Adapter W) (part : W → Option Memory) (i : Item σ W) (s : Session σ W),
          a.Serves part → (part s.store).isSome = true → i.model = m → i.adapter = a →
          (i.identityIn s).1 = id →
          ItemRun.save.Ends (fun _ _ t => a.SameAnswers (m'.keys.key id') s.store t.store) i s ∧
            ItemRun.remove.Ends (fun _ _ t => a.SameAnswers (m'.keys.key id') s.store t.store)
              i s := by
  obtain ⟨named, keys⟩ := history.keys_eq defined
  refine ⟨?_, fun m' defined' id' different => ?_⟩
  · rw [keys]
    exact KeyTemplate.isValid_key (Config.isValid_keyBase accepted) named id
  obtain ⟨named', keys'⟩ := history.keys_eq defined'
  have above : Key.isBelow (m.keys.key id) (m'.keys.key id') = false := by
    rw [keys, keys', Bool.eq_false_iff]
    exact mt (KeyTemplate.isBelow_key_iff _ named named').1 different
  have below : Key.isBelow (m'.keys.key id') (m.keys.key id) = false := by
    rw [keys, keys', Bool.eq_false_iff]
    exact mt (KeyTemplate.isBelow_key_iff _ named' named).1 (Ne.symm different)
  have apart : m.keys.key id ≠ m'.keys.key id' := fun same =>
    Bool.eq_false_iff.1 above (Key.isBelow_iff.2 (.inl same))
  refine ⟨apart, above, below, ?_⟩
  rintro a part i s serves there rfl rfl rfl
  obtain ⟨memory, there⟩ := Option.isSome_iff_exists.1 there
  constructor
  · exact ItemRun.ends_mono (ItemRun.ends_save i s) fun _ _ _ saving =>
      saving.sameAnswers serves there (Ne.symm apart)
  · exact ItemRun.ends_mono (ItemRun.ends_remove i s) fun _ _ _ removing =>
      removing.sameAnswers serves there below

/-! Tasks and task lists below a base with a mark of its own, in one memory. -/

namespace Registry

/-- The configuration of the registry. -/
def taskText : String := "\x7b\x22dataPrefix\x22: \x22a%u/b\x22\x7d"

def taskConfig : Config := (Config.ofText taskText).toOption.get (by decide +kernel)

/-- The registry before anything is defined. -/
def taskStart : Registry Unit Memory := { config := taskConfig, adapter := Memory.adapter 1 true }

/-- The model of tasks, and the registry that has defined it. -/
def taskFirst : Model Unit Memory × Registry Unit Memory :=
  (taskStart.define 1 "Task" (Draft.property {} "title" {}) (.root taskStart.context)
    none).toOption.get (by decide +kernel)

/-- The model of task lists, and the registry that has defined both. -/
def taskSecond : Model Unit Memory × Registry Unit Memory :=
  (taskFirst.2.define 2 "Tasks" (Draft.property {} "title" {}) (.root taskStart.context)
    none).toOption.get (by decide +kernel)

/-- The key of the list. -/
def taskListKey : String :=
  "a00000000-0000-0000-0000-000000000005/b/Tasks/items/00000000-0000-0000-0000-000000000005"

/-- A task that has not been saved, and a session in which a list of its identity is stored. -/
def task : Item Unit Memory := .create taskFirst.1 (some (.ofNat 5)) none none

def taskSession : Session Unit Memory :=
  { store := ⟨.ofList [(taskListKey, .empty)]⟩
    notes := ()
    identities := .ofNat }

/-- The task is saved, and the list stays. -/
theorem items_apart_tasks :
    Config.ofText taskText = .ok taskConfig ∧
      taskSecond.2.History taskConfig [taskSecond.1, taskFirst.1] ∧
      (ItemRun.save.run.run (task, taskSession)).2.2.store.records.size = 2 ∧
      ItemRun.save.Ends (fun _ _ t => (Memory.adapter 1 true).SameAnswers taskListKey
        taskSession.store t.store) task taskSession := by
  have accepted : Config.ofText taskText = .ok taskConfig := Except.eq_ok_get _ _
  have first : taskStart.define 1 "Task" (Draft.property {} "title" {}) (.root taskStart.context)
      none = .ok taskFirst := Except.eq_ok_get _ _
  have second : taskFirst.2.define 2 "Tasks" (Draft.property {} "title" {})
      (.root taskStart.context) none = .ok taskSecond := Except.eq_ok_get _ _
  have history : taskSecond.2.History taskConfig [taskSecond.1, taskFirst.1] :=
    .define (.define (.start (Memory.adapter 1 true)) first) second
  have key : taskSecond.1.keys.key (.ofNat 5) = taskListKey := by decide +kernel
  have different : (taskFirst.1.name, Uuid.ofNat 5) ≠ (taskSecond.1.name, .ofNat 5) := by
    decide +kernel
  have apart := (items_apart accepted history (m := taskFirst.1) (by simp) (.ofNat 5)).2
    taskSecond.1 List.mem_cons_self (.ofNat 5) different
  obtain ⟨-, -, -, frame⟩ := apart
  have saved :=
    (frame (Memory.adapter 1 true) some task taskSession (Memory.serves 1 true) rfl rfl rfl rfl).1
  rw [key] at saved
  exact ⟨accepted, history, by decide +kernel, saved⟩

end Registry

end EntityStore
