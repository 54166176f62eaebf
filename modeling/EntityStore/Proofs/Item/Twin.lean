import EntityStore.Proofs.Item.Outcome
import EntityStore.Proofs.Pipeline
import EntityStore.Proofs.ScalarType.Canonical
import EntityStore.Storage.Memory

set_option autoImplicit false

/-! # Items and sessions over two kinds of memories

A memory that takes bytes as they are and one that takes texts only hold different records of the
same properties. Items that are kept in the one and in the other differ in the adapter of their
model (`Item.upon`). Code sees it where it exports the item in stored form or looks at the adapter
itself; code that does neither (`Script.IsBlind`) goes the same way on both
(`Item.runScript_upon`). Sessions differ in the form of the records (`Session.Twin`): each record is
one of two stored forms of the same properties, and the same properties are restored from both. -/

namespace EntityStore

variable {σ W α β : Type}

/-! ## Code that does not see the adapter -/

/-- Whatever it is answered, a script neither exports the item in stored form nor looks at the
adapter of its model. -/
def Script.IsBlind : Script σ α → Prop
  | .done _ => True
  | .raise _ => True
  | .get _ next => ∀ r, (next r).IsBlind
  | .set _ _ next => ∀ r, (next r).IsBlind
  | .call _ _ next => ∀ r, (next r).IsBlind
  | .validate next => ∀ r, (next r).IsBlind
  | .inspect next => ∀ view, (next view).IsBlind
  | .toObject stored next => stored = false ∧ ∀ object, (next object).IsBlind
  | .adapter _ => False
  | .recall next => ∀ notes, (next notes).IsBlind
  | .record _ next => next.IsBlind

namespace Script

theorem IsBlind.bind {code : Script σ α} {f : α → Script σ β} (h : code.IsBlind)
    (next : ∀ a, (f a).IsBlind) : (code.bind f).IsBlind := by
  induction code with
  | done a => exact next a
  | raise e => trivial
  | get name rest ih => exact fun r => ih r (h r)
  | set name v rest ih => exact fun r => ih r (h r)
  | call name args rest ih => exact fun r => ih r (h r)
  | validate rest ih => exact fun r => ih r (h r)
  | inspect rest ih => exact fun view => ih view (h view)
  | toObject stored rest ih => exact ⟨h.1, fun object => ih object (h.2 object)⟩
  | adapter rest ih => exact h.elim
  | «recall» rest ih => exact fun notes => ih notes (h notes)
  | record notes rest ih => exact ih h

theorem isBlind_ofExcept {r : Except ModelError α} : (ofExcept r : Script σ α).IsBlind := by
  cases r <;> trivial

end Script

/-- Neither the code of a model for events on items nor that of its methods sees the adapter. -/
structure Model.IsBlind (m : Model σ W) : Prop where
  hook : ∀ e code, m.hook? e = some code → code.IsBlind
  method : ∀ name code, m.method name = .ok code → ∀ args, (code args).IsBlind

namespace Model.IsBlind

variable {m : Model σ W}

theorem codeFor (h : m.IsBlind) (e : LifecycleEvent) : (m.codeFor e).IsBlind := by
  unfold Model.codeFor
  cases declared : m.hook? e with
  | none => trivial
  | some code => exact h.hook e code declared

theorem validation (h : m.IsBlind) : m.validation.IsBlind := by
  refine (h.codeFor _).bind fun _ => ?_
  intro view
  exact (h.codeFor _).bind fun _ => trivial

end Model.IsBlind

/-! ## Another adapter -/

/-- The model with another adapter. -/
def Model.upon (m : Model σ W) (a : Adapter W) : Model σ W := { m with adapter := a }

namespace Item

variable {a : Adapter W}

/-- The item with a model that has another adapter. -/
def upon (i : Item σ W) (a : Adapter W) : Item σ W := { i with model := i.model.upon a }

/-- The item is of a model, and is kept where the model keeps its items. -/
structure IsOf (m : Model σ W) (i : Item σ W) : Prop where
  /-- It is of the model. -/
  model_eq : i.model = m
  /-- There is no adapter of its own. -/
  ownAdapter_eq : i.ownAdapter = none

theorem kept_isOf (m : Model σ W) : Kept (IsOf m) where
  rewritten h steps := ⟨steps.model_eq.trans h.model_eq, steps.ownAdapter_eq.trans h.ownAdapter_eq⟩
  adopt _ h := ⟨h.model_eq, h.ownAdapter_eq⟩
  markSaved _ h := ⟨h.model_eq, h.ownAdapter_eq⟩
  withOutcome _ h := ⟨h.model_eq, h.ownAdapter_eq⟩

@[grind →]
theorem IsOf.adapter_eq {m : Model σ W} {i : Item σ W} (h : i.IsOf m) : i.adapter = m.adapter := by
  rw [adapter, h.ownAdapter_eq, Option.getD_none, h.model_eq]

@[simp]
theorem IsOf.adapter_upon {m : Model σ W} {i : Item σ W} (h : i.IsOf m) :
    (i.upon a).adapter = a := by
  rw [adapter, upon, h.ownAdapter_eq]
  rfl

theorem setProperty_upon (i : Item σ W) (name : String) (p : Property) (v : Value) :
    (i.upon a).setProperty name p v = (i.setProperty name p v).upon a := by
  unfold setProperty
  dsimp only
  rw [apply_ite (fun j : Item σ W => j.upon a)]
  rfl

/-- Writing a member does not look at the adapter. -/
theorem set_upon (i : Item σ W) (name : String) (v : Value) :
    (i.upon a).set name v = (i.set name v).map (·.upon a) := by
  unfold set
  have same : (i.upon a).model.accessors = i.model.accessors := rfl
  rw [same]
  cases i.model.accessors.get? name with
  | none => by_cases h : name = "uuid" <;> simp only [h, if_true, if_false] <;> rfl
  | some accessor =>
    cases accessor with
    | property p => exact congrArg Except.ok (setProperty_upon i name p v)
    | computed c => rfl
    | method code => rfl
    | hook e => rfl

/-- Blind code that a script calls goes the same way whatever the adapter of the model is. -/
def Callee.IgnoresAdapter (a : Adapter W) (callee : Callee σ W) : Prop :=
  ∀ (α : Type) (code : Script σ α), code.IsBlind → ∀ (i : Item σ W) notes, i.model.IsBlind →
    callee α code (i.upon a) notes = ((callee α code i notes).1,
      (callee α code i notes).2.1.upon a, (callee α code i notes).2.2)

/-- A blind script goes the same way whatever the adapter of the model is. -/
theorem run_upon {callee : Callee σ W} (rewrites : callee.Rewrites)
    (ignores : callee.IgnoresAdapter a) (code : Script σ α) (blind : code.IsBlind) (i : Item σ W)
    (notes : σ) (hi : i.model.IsBlind) : run callee code (i.upon a) notes =
      ((run callee code i notes).1, (run callee code i notes).2.1.upon a,
        (run callee code i notes).2.2) := by
  -- What is left of a method or of a check is an item of the same model, so one with blind code.
  have kept {α : Type} (code : Script σ α) (i : Item σ W) (notes : σ) (hi : i.model.IsBlind) :
      (callee α code i notes).2.1.model.IsBlind := by
    rwa [(rewrites α code i notes).model_eq]
  induction code generalizing i notes with
  | done r => rfl
  | raise e => rfl
  | get name next ih => exact ih (i.get name) (blind _) i notes hi
  | set name v next ih =>
    unfold run
    rw [set_upon]
    cases written : i.set name v with
    | ok j =>
      have same : j.model = i.model := Rewritten.model_eq (.single ⟨name, v, written⟩)
      exact ih _ (blind _) j notes (same ▸ hi)
    | error e => exact ih _ (blind _) i notes hi
  | call name args next ih =>
    unfold run
    have same : (i.upon a).model.method name = i.model.method name := rfl
    rw [same]
    cases method : i.model.method name with
    | ok code =>
      dsimp only
      rw [ignores Value (code args) (hi.method name code method args) i notes hi]
      exact ih _ (blind _) _ _ (kept (code args) i notes hi)
    | error e => exact ih _ (blind _) i notes hi
  | validate next ih =>
    unfold run
    have same : (i.upon a).model.validation = i.model.validation := rfl
    rw [same, ignores (List Violation) i.model.validation hi.validation i notes hi]
    exact ih _ (blind _) _ _ (kept i.model.validation i notes hi)
  | inspect next ih => exact ih i.view (blind _) i notes hi
  | toObject stored next ih =>
    obtain ⟨rfl, blind⟩ := blind
    exact ih (i.toObject false) (blind _) i notes hi
  | adapter next ih => exact blind.elim
  | «recall» next ih => exact ih notes (blind _) i notes hi
  | record new next ih => exact ih blind i new hi

theorem ignoresAdapter_runWithin (depth : Nat) :
    Callee.IgnoresAdapter a (runWithin depth : Callee σ W) := by
  induction depth with
  | zero =>
    intro α code blind i notes hi
    rfl
  | succ depth ih =>
    intro α code blind i notes hi
    exact run_upon (rewrites_runWithin depth) ih code blind i notes hi

theorem runScript_upon (code : Script σ α) (blind : code.IsBlind) (i : Item σ W) (notes : σ)
    (hi : i.model.IsBlind) : (i.upon a).runScript code notes = ((i.runScript code notes).1,
      (i.runScript code notes).2.1.upon a, (i.runScript code notes).2.2) :=
  run_upon (rewrites_runWithin _) (ignoresAdapter_runWithin _) code blind i notes hi

end Item

/-! ## Two stored forms -/

/-- Both stored forms of a value stand for the same value. -/
theorem ScalarType.deserialize_serialize_binary (t : ScalarType) (v : Value) :
    t.deserialize (t.serialize true v) = t.deserialize (t.serialize false v) := by
  cases t with
  | uuid =>
    simp only [serialize, deserialize]
    cases v.identity? with
    | none => rfl
    | some u => simp only [toIdentity_storedIdentity]
  | _ => rfl

/-- Both stored forms of properties stand for the same properties. -/
theorem Pipeline.deserialize_serialize_binary (sec : Section Property) (bag : Properties) :
    (ofSection sec).deserialize ((ofSection sec).serialize true bag) =
      (ofSection sec).deserialize ((ofSection sec).serialize false bag) := by
  refine Bag.ext_get? fun name => ?_
  simp only [get?_deserialize, get?_serialize]
  cases sec.get? name with
  | none => rw [Option.map_none, Option.map_none]
  | some p =>
    simp only [Option.map_some, Option.getD_some, p.type.deserialize_serialize_binary]

/-- Two memories that hold the records of the same properties, one with bytes and one with texts. -/
def Memory.Twin (p : Pipeline) (a b : Memory) : Prop :=
  ∃ known : String → Option Properties, ∀ key,
    a.records.get? key = (known key).map (p.serialize true) ∧
      b.records.get? key = (known key).map (p.serialize false)

namespace Memory.Twin

variable {p : Pipeline} {a b : Memory}

theorem names_eq (h : Twin p a b) : b.records.names = a.records.names := by
  obtain ⟨known, records⟩ := h
  refine List.eq_of_ascending b.records.ascending_names a.records.ascending_names fun key => ?_
  rw [Bag.mem_names, Bag.mem_names, (records key).1, (records key).2]
  cases known key <;> simp

theorem keys_eq (h : Twin p a b) (base : String) : b.keys base = a.keys base := by
  unfold keys
  rw [h.names_eq]

/-- Under a key, both have a record of the same properties, or both fail alike. -/
theorem read (h : Twin p a b) (key : String) :
    (∃ bag, a.read key = .ok (p.serialize true bag) ∧ b.read key = .ok (p.serialize false bag)) ∨
      ∃ e, a.read key = .error e ∧ b.read key = .error e := by
  obtain ⟨known, records⟩ := h
  unfold Memory.read
  rw [(records key).1, (records key).2]
  cases Storage.checkKey key with
  | error e => exact .inr ⟨e, rfl, rfl⟩
  | ok _ =>
    cases known key with
    | none => exact .inr ⟨_, rfl, rfl⟩
    | some bag => exact .inl ⟨bag, rfl, rfl⟩

theorem write (h : Twin p a b) (key : String) (bag : Properties) :
    (b.write key (p.serialize false bag)).1 = (a.write key (p.serialize true bag)).1 ∧
      Twin p (a.write key (p.serialize true bag)).2 (b.write key (p.serialize false bag)).2 := by
  unfold Memory.write
  cases Storage.checkKey key with
  | error e => exact ⟨rfl, h⟩
  | ok _ =>
    obtain ⟨known, records⟩ := h
    refine ⟨rfl, fun other => if other = key then some bag else known other, fun other => ?_⟩
    simp only [Bag.get?_insert]
    split
    · exact ⟨rfl, rfl⟩
    · exact records other

theorem purge (h : Twin p a b) (key : String) :
    (b.purge key).1 = (a.purge key).1 ∧ Twin p (a.purge key).2 (b.purge key).2 := by
  unfold Memory.purge
  cases Storage.checkKey key with
  | error e => exact ⟨rfl, h⟩
  | ok _ =>
    obtain ⟨known, records⟩ := h
    refine ⟨rfl, fun other => if Key.isBelow other key then none else known other, fun other => ?_⟩
    simp only [Bag.get?_filter, (records other).1, (records other).2]
    cases known other <;> cases Key.isBelow other key <;> exact ⟨rfl, rfl⟩

end Memory.Twin

/-! ## Two sessions -/

/-- The step without the record that was read; whether it was read is kept. -/
def Step.withoutRecord : Step → Step
  | .read model id record => .read model id (record.map fun _ => Bag.empty)
  | step => step

namespace Session

/-- Two sessions that differ in the form of records only. -/
structure Twin (p : Pipeline) (s t : Session σ Memory) : Prop where
  /-- The stores hold records of the same properties. -/
  stores : Memory.Twin p s.store t.store
  /-- The notes are the same. -/
  notes_eq : t.notes = s.notes
  /-- All indices have the same entries. -/
  indices_eq : t.indices = s.indices
  /-- No adapter has been chosen to be observed. -/
  unobserved : s.observed = (fun _ => none) ∧ t.observed = fun _ => none
  /-- New items get the same identities. -/
  identities_eq : t.identities = s.identities
  /-- The same number of identities have been used. -/
  minted_eq : t.minted = s.minted
  /-- The same steps have been taken. -/
  journal_eq : t.journal.map Step.withoutRecord = s.journal.map Step.withoutRecord

namespace Twin

variable {p : Pipeline} {s t : Session σ Memory}

theorem start (p : Pipeline) (notes : σ) (identities : Nat → Uuid) :
    Twin p { store := {}, notes, identities } { store := {}, notes, identities } where
  stores := ⟨fun _ => none, fun _ => ⟨rfl, rfl⟩⟩
  notes_eq := rfl
  indices_eq := rfl
  unobserved := ⟨rfl, rfl⟩
  identities_eq := rfl
  minted_eq := rfl
  journal_eq := rfl

theorem log (h : Twin p s t) {step step' : Step}
    (same : step'.withoutRecord = step.withoutRecord) : Twin p (s.log step) (t.log step') :=
  { h with
    journal_eq := by
      unfold Session.log
      rw [List.map_append, List.map_append, h.journal_eq, List.map_singleton, List.map_singleton,
        same] }

theorem withNotes (h : Twin p s t) (notes : σ) :
    Twin p { s with notes } { t with notes } := { h with notes_eq := rfl }

theorem withStore (h : Twin p s t) {a b : Memory} (stores : Memory.Twin p a b) :
    Twin p { s with store := a } { t with store := b } := { h with stores := stores }

theorem mint (h : Twin p s t) : t.mint.1 = s.mint.1 ∧ Twin p s.mint.2 t.mint.2 := by
  refine ⟨?_, { h with minted_eq := congrArg (· + 1) h.minted_eq }⟩
  unfold Session.mint
  rw [h.identities_eq, h.minted_eq]

theorem indicesOf_eq (h : Twin p s t) (m : Model σ Memory) (a : Adapter Memory) :
    t.indicesOf (m.upon a) = s.indicesOf m := by
  unfold indicesOf
  rw [h.indices_eq]
  rfl

theorem mapIndices (h : Twin p s t) (m : Model σ Memory) (a : Adapter Memory)
    (f : IndexDefinition → SortedIndex → SortedIndex) :
    Twin p (s.mapIndices m f) (t.mapIndices (m.upon a) f) :=
  { h with
    indices_eq := by
      unfold Session.mapIndices setIndices
      rw [h.indicesOf_eq, h.indices_eq]
      rfl }

theorem find_eq (h : Twin p s t) (m : Model σ Memory) (a : Adapter Memory) (property : String)
    (c : Comparison) (operands : List Value) :
    t.find (m.upon a) property c operands = s.find m property c operands := by
  unfold find
  rw [h.indicesOf_eq]
  rfl

end Twin

end Session

end EntityStore
