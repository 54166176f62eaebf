import EntityStore.Proofs.Bag
import EntityStore.Proofs.Model
import EntityStore.Proofs.Pipeline
import EntityStore.Proofs.Population

set_option autoImplicit false

/-! # Changes: what an item records, and against what

An item records which of its properties have changed. They have changed against its baseline: the
properties that it had at first, that it has read, or that were written, whichever came last
(`Session.baseline`). The record is complete: a property that is not in it agrees with the baseline
(`Item.Tracks`), whatever was done with the item (`Operation.Outcome.tracks`). -/

namespace EntityStore

variable {σ W : Type}

/-! ## Values that agree -/

/-- Two values that may be missing are equal, or the same. -/
def Agree (a b : Option Value) : Prop := a = b ∨ Item.sameOrMissing a b = true

namespace Agree

theorem refl (a : Option Value) : Agree a a := .inl rfl

/-- Values that agree without being equal are numbers that stand for the same number. -/
theorem cases {a b : Option Value} (h : Agree a b) :
    a = b ∨ ∃ x y : Binary64, a = some (.number x) ∧ b = some (.number y) ∧ x.equals y = true := by
  rcases h with h | h
  · exact .inl h
  · rcases a with _ | a <;> rcases b with _ | b <;> simp only [Item.sameOrMissing] at h
    · exact .inl rfl
    · exact absurd h (by simp)
    · exact absurd h (by simp)
    · unfold Value.same at h
      split at h
      · next x y => exact .inr ⟨x, y, rfl, rfl, h⟩
      · exact absurd h (by simp)
      · exact absurd h (by simp)
      · exact .inl (congrArg some (of_decide_eq_true h))

theorem trans {a b c : Option Value} (h : Agree a b) (h' : Agree b c) : Agree a c := by
  obtain rfl | ⟨x, y, rfl, rfl, hxy⟩ := h.cases
  · exact h'
  · obtain rfl | ⟨y', z, hy, rfl, hyz⟩ := h'.cases
    · exact h
    -- Both values in the middle are the same number.
    · obtain rfl : y = y' := by simpa using hy
      exact .inr (Binary64.equals_trans hxy hyz)

end Agree

/-- A value that is the same as some value is the same as itself. -/
theorem Item.sameOrMissing_self {a b : Option Value} (h : sameOrMissing a b = true) :
    sameOrMissing a a = true := by
  obtain rfl | ⟨x, y, rfl, rfl, hxy⟩ := Agree.cases (.inr h)
  · exact h
  · have number := (Binary64.equals_iff.1 hxy).1
    exact Binary64.equals_iff.2 ⟨number, number, rfl⟩

/-! ## Recorded changes -/

namespace Changes

/-- It is recorded whether there are changes. -/
def IsHonest (c : Changes) : Prop := c.any = true ↔ c.names.names ≠ []

theorem isHonest_empty : ({} : Changes).IsHonest := by
  simp [IsHonest, Bag.names, Bag.empty]

theorem isHonest_mark (c : Changes) (name : String) : (c.mark name).IsHonest := by
  have recorded : name ∈ (c.names.add name).names :=
    Bag.mem_names.2 ⟨(), Bag.get?_insert_self c.names name ()⟩
  exact ⟨fun _ => List.ne_nil_of_mem recorded, fun _ => rfl⟩

theorem IsHonest.markAll {c : Changes} (h : c.IsHonest) (l : List String) :
    (l.foldl mark c).IsHonest := by
  induction l generalizing c with
  | nil => exact h
  | cons name l ih => exact ih (c.isHonest_mark name)

theorem IsHonest.get?_eq_none {c : Changes} (h : c.IsHonest) (nothing : c.any = false)
    (name : String) : c.names.get? name = none := by
  rw [← Bag.not_mem_names]
  intro recorded
  have some : c.any = true := h.2 (List.ne_nil_of_mem recorded)
  exact absurd (some.symm.trans nothing) (by simp)

@[simp]
theorem get?_mark (c : Changes) (name other : String) :
    (c.mark name).names.get? other = none ↔ other ≠ name ∧ c.names.get? other = none := by
  unfold mark Names.add
  rw [Bag.get?_insert]
  by_cases h : other = name <;> simp [h]

@[simp]
theorem get?_markAll (l : List String) (c : Changes) (other : String) :
    (l.foldl mark c).names.get? other = none ↔ other ∉ l ∧ c.names.get? other = none := by
  induction l generalizing c with
  | nil => simp
  | cons name l ih =>
    rw [List.foldl_cons, ih, get?_mark, List.mem_cons, not_or, and_left_comm, and_assoc]

@[simp]
theorem mem_names_mark (c : Changes) (name other : String) :
    other ∈ (c.mark name).names.names ↔ other ∈ c.names.names ∨ other = name := by
  rw [← Decidable.not_iff_not, not_or, Bag.not_mem_names, Bag.not_mem_names, get?_mark, and_comm]

@[simp]
theorem mem_names_markAll (l : List String) (c : Changes) (other : String) :
    other ∈ (l.foldl mark c).names.names ↔ other ∈ c.names.names ∨ other ∈ l := by
  rw [← Decidable.not_iff_not, not_or, Bag.not_mem_names, Bag.not_mem_names, get?_markAll, and_comm]

end Changes

namespace Item

/-- Every declared property that is not recorded as changed agrees with a baseline. -/
def Tracks (i : Item σ W) (baseline : Properties) : Prop :=
  ∀ name ∈ i.model.schema.properties.names, i.changed.get? name = none →
    Agree (baseline.get? name) (i.properties.get? name)

theorem tracks_own (i : Item σ W) : i.Tracks i.properties := fun _ _ _ => .refl _

/-- Whatever is done with an item, it is recorded whether it has changed. -/
theorem kept_isHonest : Item.Kept (σ := σ) (W := W) (·.changes.IsHonest) where
  rewritten h steps := by
    refine steps.keeps (P := fun i => i.changes.IsHonest) (fun i j honest step => ?_) h
    obtain ⟨name, p, v, -, rfl⟩ | ⟨name, c, v, -, rfl⟩ := step.cases
    · unfold setProperty
      dsimp only
      split
      · exact honest
      · exact i.changes.isHonest_mark name
    · exact honest.markAll _
  adopt _ _ := Changes.isHonest_empty
  markSaved _ _ := Changes.isHonest_empty
  withOutcome _ h := h

end Item

/-! ## What a write records -/

namespace Item

/-- A write of a member gives a property a value: that of a property does to the property itself,
and that of a computed property to all of them. -/
def Writes (i : Item σ W) (member name : String) : Prop :=
  match i.model.accessors.get? member with
  | some (.property _) => name = member
  | some (.computed _) => True
  | _ => False

/-- Between two items a property got a value that is not the same. -/
def Differs (i j : Item σ W) (name : String) : Prop :=
  sameOrMissing (i.properties.get? name) (j.properties.get? name) = false

theorem mem_changed_setProperty (i : Item σ W) (name : String) (p : Property) (v : Value)
    (other : String) : other ∈ (i.setProperty name p v).changed.names ↔
      other ∈ i.changed.names ∨ other = name ∧ i.Differs (i.setProperty name p v) other := by
  unfold setProperty
  dsimp only
  split
  · next same =>
    -- The value is the same as one, hence the same as itself.
    have unaltered : ¬ i.Differs i name := by
      unfold Differs
      simp [sameOrMissing_self same]
    constructor
    · exact .inl
    · rintro (recorded | ⟨rfl, differs⟩)
      · exact recorded
      · exact absurd differs unaltered
  · next differs =>
    have altered : i.Differs { i with
        properties := i.properties.insert name (p.type.coerce p none v)
        changes := i.changes.mark name } name := by
      unfold Differs
      simpa [Bag.get?_insert] using differs
    refine (Changes.mem_names_mark _ _ _).trans (or_congr_right ?_)
    constructor
    · rintro rfl
      exact ⟨rfl, altered⟩
    · exact And.left

theorem mem_changed_setComputed (i : Item σ W) (c : Computed) (v : Value) (other : String) :
    other ∈ (i.setComputed c v).changed.names ↔ other ∈ i.changed.names ∨
      other ∈ i.model.schema.properties.names ∧ i.Differs (i.setComputed c v) other := by
  refine (Changes.mem_names_markAll _ _ _).trans (or_congr_right ?_)
  rw [List.mem_filter, Bool.not_eq_true']
  rfl

/-- What is recorded after a write: what was recorded before it, and the properties that it gave a
value that is not the same. -/
theorem mem_changed_of_set {keyBase : String} {i j : Item σ W}
    (coherent : i.model.Coherent keyBase) {member : String} {v : Value}
    (set : i.set member v = .ok j) (name : String) :
    name ∈ j.changed.names ↔ name ∈ i.changed.names ∨
      name ∈ i.model.schema.properties.names ∧ i.Writes member name ∧ i.Differs j name := by
  unfold Item.set at set
  unfold Writes
  split at set
  · next p found =>
    obtain rfl := Except.ok.inj set
    have declared : member ∈ i.model.schema.properties.names :=
      Section.mem_names.2 ⟨p, coherent.property member p found⟩
    rw [mem_changed_setProperty, found]
    refine or_congr_right ?_
    constructor
    · rintro ⟨rfl, differs⟩
      exact ⟨declared, rfl, differs⟩
    · exact And.right
  · next c found =>
    obtain rfl := Except.ok.inj set
    rw [mem_changed_setComputed, found]
    simp
  · simp at set
  · simp at set
  · split at set <;> simp at set

end Item

namespace Item.Tracks

variable {i j : Item σ W} {baseline : Properties}

theorem setProperty (h : i.Tracks baseline) (name : String) (p : Property) (v : Value) :
    (i.setProperty name p v).Tracks baseline := by
  unfold Item.setProperty
  dsimp only
  split
  · exact h
  · intro other declared unchanged
    obtain ⟨differs, before⟩ := (Changes.get?_mark _ _ _).1 unchanged
    rw [Bag.get?_insert, if_neg differs]
    exact h other declared before

/-- A name that is not added to the changed ones is one under which nothing was altered. -/
theorem setComputed (h : i.Tracks baseline) (c : Computed) (v : Value) :
    (i.setComputed c v).Tracks baseline := by
  intro name declared unchanged
  obtain ⟨unaltered, before⟩ := (Changes.get?_markAll _ _ _).1 unchanged
  refine (h name declared before).trans (.inr ?_)
  -- The name would have been added, had the value been altered.
  have same := mt (fun altered => List.mem_filter.2 ⟨declared, altered⟩) unaltered
  rwa [Bool.not_eq_true', Bool.not_eq_false] at same

theorem assigned (h : i.Tracks baseline) (step : i.Assigned j) : j.Tracks baseline := by
  obtain ⟨name, p, v, -, rfl⟩ | ⟨name, c, v, -, rfl⟩ := step.cases
  · exact h.setProperty name p v
  · exact h.setComputed c v

theorem rewritten (h : i.Tracks baseline) (steps : i.Rewritten j) : j.Tracks baseline :=
  steps.keeps (fun _ _ => Tracks.assigned) h

/-- Without recorded changes all declared properties agree with the baseline. -/
theorem agree (h : i.Tracks baseline) (honest : i.changes.IsHonest)
    (unchanged : i.hasChanged = false) :
    ∀ name ∈ i.model.schema.properties.names,
      Agree (baseline.get? name) (i.properties.get? name) :=
  fun name declared => h name declared (honest.get?_eq_none unchanged name)

end Item.Tracks

/-! ## Baselines -/

/-- What a step makes of the baseline of the item for which it is taken. -/
def Step.baseline (m : Model σ W) (known : Properties) : Step → Properties
  | .read _ _ (some record) => m.pipeline.deserialize record
  | .write _ _ properties true => properties
  | _ => known

namespace Session

/-- What the steps between two sessions make of the baseline of the item for which they are
taken. -/
def baseline (s t : Session σ W) (m : Model σ W) (known : Properties) : Properties :=
  (t.journal.drop s.journal.length).foldl (Step.baseline m) known

/-- From one session to the other one a baseline becomes another one. -/
def Turns (m : Model σ W) (s : Session σ W) (known : Properties) (t : Session σ W)
    (known' : Properties) : Prop :=
  ∃ steps, t.journal = s.journal ++ steps ∧ steps.foldl (Step.baseline m) known = known'

namespace Turns

variable {m : Model σ W} {s t u : Session σ W} {known known' known'' : Properties}

theorem baseline_eq (h : s.Turns m known t known') : s.baseline t m known = known' := by
  obtain ⟨steps, eq, rfl⟩ := h
  rw [baseline, eq, List.drop_left]

theorem trans (h : s.Turns m known t known') (h' : t.Turns m known' u known'') :
    s.Turns m known u known'' := by
  obtain ⟨steps, eq, rfl⟩ := h
  obtain ⟨steps', eq', rfl⟩ := h'
  exact ⟨steps ++ steps', by rw [eq', eq, List.append_assoc], by rw [List.foldl_append]⟩

theorem of_quiet (m : Model σ W) (known : Properties) (h : s.Quiet t) :
    s.Turns m known t known := by
  obtain ⟨steps, notes, quiet, rfl⟩ := h
  refine ⟨steps, rfl, ?_⟩
  induction steps with
  | nil => rfl
  | cons step steps ih =>
    obtain ⟨head, tail⟩ := List.forall_mem_cons.1 quiet
    have kept : Step.baseline m known step = known := by cases step <;> first | rfl | cases head
    rw [List.foldl_cons, kept]
    exact ih tail

theorem identityIn (m : Model σ W) (known : Properties) (i : Item σ W) (s : Session σ W) :
    s.Turns m known (i.identityIn s).2 known := by
  refine ⟨[], ?_, rfl⟩
  unfold Item.identityIn
  cases i.id <;> exact (List.append_nil _).symm

section Asking

variable (m : Model σ W) (known : Properties) {i : Item σ W} {id : Uuid}

theorem read {record : Record} (h : i.readUnder id s.store = .ok record) :
    s.Turns m known (s.afterRead i id) (m.pipeline.deserialize record) :=
  ⟨[.read _ _ _], rfl, by rw [h]; rfl⟩

theorem read_error {e : StorageError} (h : i.readUnder id s.store = .error e) :
    s.Turns m known (s.afterRead i id) known :=
  ⟨[.read _ _ _], rfl, by rw [h]; rfl⟩

theorem write (h : (i.writeUnder id s.store).1 = .ok ()) :
    s.Turns m known (((s.afterWrite i id).log .index).updateIndices i.model id i.properties)
      i.properties :=
  ⟨[.write _ _ _ _, .index], List.append_assoc _ _ _, by rw [h]; rfl⟩

theorem write_error {e : StorageError} (h : (i.writeUnder id s.store).1 = .error e) :
    s.Turns m known (s.afterWrite i id) known :=
  ⟨[.write _ _ _ _], rfl, by rw [h]; rfl⟩

theorem purge (s : Session σ W) (i : Item σ W) (id : Uuid) :
    s.Turns m known (((s.afterPurge i id).log .unindex).removeFromIndices i.model id) known :=
  ⟨[.purge _ _ _, .unindex], List.append_assoc _ _ _, rfl⟩

theorem purge_error (s : Session σ W) (i : Item σ W) (id : Uuid) :
    s.Turns m known (s.afterPurge i id) known := ⟨[.purge _ _ _], rfl, rfl⟩

end Asking

end Turns

end Session

/-! ## Operations -/

/-- Between the sessions before and after an operation, the item tracks its changes against the
baseline that the steps in between leave. -/
def Item.TracksAfter (j : Item σ W) (m : Model σ W) (s : Session σ W) (known : Properties)
    (t : Session σ W) : Prop :=
  ∃ known', s.Turns m known t known' ∧ j.Tracks known'

section Operations

open Session

variable {i j : Item σ W} {s t : Session σ W} {r : Except ModelError Unit} {known : Properties}

theorem Item.Tracks.after_quiet (h : j.Tracks known) (m : Model σ W) (quiet : s.Quiet t) :
    j.TracksAfter m s known t := ⟨known, .of_quiet m known quiet, h⟩

/-- A record that was read is the new baseline; a failure to read leaves the old one. -/
theorem Reading.tracks {id : Uuid} (h : Reading i s id r j t) (before : i.Tracks known) :
    j.TracksAfter i.model s known t := by
  cases h with
  | stopped e events quiet => exact (before.rewritten events.rewritten).after_quiet _ quiet
  | refused e events quiet answer =>
    have asked := (Turns.of_quiet i.model known quiet).trans (.read_error _ known answer)
    exact ⟨known, asked, before.rewritten events.rewritten⟩
  | adopted r events quiet answer after quiet' =>
    have asked := (Turns.of_quiet i.model known quiet).trans (.read _ known answer)
    refine ⟨_, asked.trans (.of_quiet _ _ quiet'), ?_⟩
    rw [← events.model_eq]
    exact (Item.tracks_own (Item.adopt _ _)).rewritten after.rewritten

theorem Loading.tracks (h : Loading i s r j t) (before : i.Tracks known) :
    j.TracksAfter i.model s known t := by
  cases h with
  | repeated r outcome => exact before.after_quiet _ (.refl s)
  | stopped e fresh quiet => exact before.after_quiet _ quiet
  | tried r fresh named quiet reading =>
    obtain ⟨known', turns, tracks⟩ := reading.tracks before
    exact ⟨known', .trans (.of_quiet _ known quiet) turns, tracks⟩

/-- Written properties are the new baseline; a failure to write leaves the old one. -/
theorem Saving.tracks (h : Saving i s r j t) (before : i.Tracks known) :
    j.TracksAfter i.model s known t := by
  cases h with
  | stopped e events quiet => exact (before.rewritten events.rewritten).after_quiet _ quiet
  | refused e before' valid events quiet answer =>
    have ready := (Turns.of_quiet i.model known quiet).trans (.identityIn _ known j _)
    exact ⟨known, ready.trans (.write_error _ known answer),
      before.rewritten (before'.trans events).rewritten⟩
  | @written checked k _ u _ r before' valid events quiet answer after quiet' =>
    have ready := (Turns.of_quiet i.model known quiet).trans (.identityIn _ known k u)
    have written := ready.trans (.write _ known answer)
    refine ⟨_, written.trans (.of_quiet _ _ quiet'), ?_⟩
    exact (Item.tracks_own (Item.markSaved _ _)).rewritten after.rewritten

theorem Removing.tracks (h : Removing i s r j t) (before : i.Tracks known) :
    j.TracksAfter i.model s known t := by
  cases h with
  | stopped e events quiet => exact (before.rewritten events.rewritten).after_quiet _ quiet
  | @refused j u id e named events quiet answer =>
    exact ⟨known, (Turns.of_quiet i.model known quiet).trans (.purge_error _ known u j id),
      before.rewritten events.rewritten⟩
  | @removed k _ u _ id r named events quiet answer after quiet' =>
    have removed := (Turns.of_quiet i.model known quiet).trans (.purge _ known u k id)
    refine ⟨known, removed.trans (.of_quiet _ _ quiet'), ?_⟩
    have kept : k.Tracks known := before.rewritten events.rewritten
    exact Item.Tracks.rewritten (i := k.withOutcome none) kept after.rewritten

/-- Whatever is done with an item, its record of changes against its baseline stays complete. -/
theorem Operation.Outcome.tracks {op : Operation} (h : op.Outcome i s r j t)
    (before : i.Tracks known) : j.TracksAfter i.model s known t := by
  cases op with
  | set name v => exact (before.rewritten h.1).after_quiet _ h.2
  | call name args => exact (before.rewritten h.1).after_quiet _ h.2
  | validate => exact (before.rewritten h.1.rewritten).after_quiet _ h.2
  | load => exact Loading.tracks h before
  | reload =>
    have loading : Loading (i.withOutcome none) s r j t := h
    exact loading.tracks before
  | save => exact Saving.tracks h before
  | remove => exact Removing.tracks h before

end Operations

end EntityStore
