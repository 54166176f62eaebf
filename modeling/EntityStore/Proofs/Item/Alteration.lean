import EntityStore.Proofs.Item.Sound

set_option autoImplicit false

/-! # What an item records as changed

At every moment of an item, the properties that it records as changed are exactly those that were
altered since its baseline, the last moment at which it was made, adopted its record, or had its
record written (`Item.mem_changed_iff_altered`). A property is altered by a write that gives it a
value that is not the same. Nothing else adds to what is recorded, and nothing is dropped from it,
whatever fails in between. -/

namespace EntityStore

variable {σ W : Type} {keyBase : String} {m : Model σ W}

/-! ## Alterations -/

/-- From one moment to the next, a write of a member alters a property. -/
def Moment.Alters (before now : Moment σ W) (name : String) : Prop :=
  ∃ member, now.cause = .written member ∧ before.item.Writes member name ∧
    before.item.Differs now.item name

/-- Whether changes are counted from a moment on: the item has just been made, or it agrees with its
record. -/
def Moment.isBaseline (now : Moment σ W) : Bool := now.cause == .made || now.cause == .settled

/-- The last of several moments from which changes are counted. -/
def lastBaseline? (moments : List (Moment σ W)) : Option (Moment σ W) :=
  moments.reverse.find? Moment.isBaseline

/-- In the course of moments a property was altered, and after that the item has not come to agree
with its record again. -/
def Altered (moments : List (Moment σ W)) (name : String) : Prop :=
  ∃ older before now newer, moments = older ++ before :: now :: newer ∧ before.Alters now name ∧
    ∀ later ∈ newer, later.cause ≠ .settled

theorem lastBaseline?_append (moments : List (Moment σ W)) (now : Moment σ W) :
    lastBaseline? (moments ++ [now]) =
      if now.isBaseline then some now else lastBaseline? moments := by
  unfold lastBaseline?
  rw [List.reverse_append, List.reverse_singleton, List.singleton_append, List.find?_cons]
  cases now.isBaseline <;> rfl

/-- A property is altered by the last step, or was altered before it and the last step does not
settle it. -/
theorem altered_append (past : List (Moment σ W)) (before now : Moment σ W) (name : String) :
    Altered (past ++ [before] ++ [now]) name ↔ before.Alters now name ∨
      now.cause ≠ .settled ∧ Altered (past ++ [before]) name := by
  constructor
  · rintro ⟨older, a, b, newer, split, alters, unsettled⟩
    rcases List.eq_nil_or_concat newer with rfl | ⟨newer, last, rfl⟩
    · have ends : past ++ [before] ++ [now] = older ++ [a] ++ [b] := by simpa using split
      obtain ⟨heads, ⟨⟩⟩ := List.append_inj' ends rfl
      obtain ⟨-, ⟨⟩⟩ := List.append_inj' heads rfl
      exact .inl alters
    · have ends : past ++ [before] ++ [now] = (older ++ a :: b :: newer) ++ [last] := by
        simpa using split
      obtain ⟨heads, ⟨⟩⟩ := List.append_inj' ends rfl
      refine .inr ⟨unsettled now (by simp), older, a, b, newer, heads, alters, ?_⟩
      intro later member
      exact unsettled later (by simp [member])
  · rintro (alters | ⟨unsettled, older, a, b, newer, split, alters, quiet⟩)
    · exact ⟨past, before, now, [], by simp, alters, by simp⟩
    · refine ⟨older, a, b, newer ++ [now], by simp [split], alters, ?_⟩
      intro later member
      rcases List.mem_append.1 member with member | member
      · exact quiet later member
      · rwa [List.mem_singleton.1 member]

theorem alters_written {before : Moment σ W} {i : Item σ W} {member name : String} :
    before.Alters ⟨i, .written member⟩ name ↔
      before.item.Writes member name ∧ before.item.Differs i name := by
  constructor
  · rintro ⟨_, ⟨⟩, writes, differs⟩
    exact ⟨writes, differs⟩
  · rintro ⟨writes, differs⟩
    exact ⟨member, rfl, writes, differs⟩

/-! ## One step -/

/-- At a moment, after those of the past, the record of changes is exact, and complete against the
last baseline. -/
structure Accounted (m : Model σ W) (past : List (Moment σ W)) (now : Moment σ W) : Prop where
  model_eq : now.item.model = m
  /-- The changed properties are those that were altered. -/
  changed : ∀ name, name ∈ now.item.changed.names ↔
    name ∈ m.schema.properties.names ∧ Altered (past ++ [now]) name
  /-- All other ones agree with the last baseline. -/
  tracks : ∃ base, lastBaseline? (past ++ [now]) = some base ∧
    now.item.Tracks base.item.properties

namespace Accounted

theorem made {i : Item σ W} (model : i.model = m) (unchanged : i.changed.names = []) :
    Accounted m [] ⟨i, .made⟩ where
  model_eq := model
  changed name := by
    have unaltered : ¬ Altered ([] ++ [⟨i, .made⟩]) name := by
      rintro ⟨older, before, now, newer, split, -⟩
      have length := congrArg List.length split
      simp at length
      omega
    rw [unchanged]
    exact iff_of_false List.not_mem_nil fun h => unaltered h.2
  tracks := ⟨⟨i, .made⟩, rfl, i.tracks_own⟩

/-- When item and record agree nothing counts as altered. -/
theorem settled {i : Item σ W} (model : i.model = m) (unchanged : i.changed.names = [])
    (past : List (Moment σ W)) (before : Moment σ W) :
    Accounted m (past ++ [before]) ⟨i, .settled⟩ where
  model_eq := model
  changed name := by
    have unaltered : ¬ Altered (past ++ [before] ++ [⟨i, .settled⟩]) name := by
      rw [altered_append]
      rintro (⟨_, ⟨⟩, -⟩ | ⟨unsettled, -⟩)
      exact unsettled rfl
    rw [unchanged]
    exact iff_of_false List.not_mem_nil fun h => unaltered h.2
  tracks := ⟨⟨i, .settled⟩, by rw [lastBaseline?_append]; rfl, i.tracks_own⟩

/-- A write adds what it alters. -/
theorem written (coherent : m.Coherent keyBase) {past : List (Moment σ W)} {now : Moment σ W}
    (h : Accounted m past now) {j : Item σ W} {member : String} {v : Value}
    (set : now.item.set member v = .ok j) : Accounted m (past ++ [now]) ⟨j, .written member⟩ := by
  obtain ⟨rfl, changed, base, last, tracks⟩ := h
  have step : now.item.Assigned j := ⟨member, v, set⟩
  refine ⟨Item.Rewritten.model_eq (.single step), ?_, base, ?_, tracks.assigned step⟩
  · intro name
    rw [Item.mem_changed_of_set coherent set, changed, altered_append, alters_written, and_or_left,
      or_comm]
    simp
  · rw [lastBaseline?_append]
    exact last

/-- Remembering how loading ended alters nothing. -/
theorem concluded {past : List (Moment σ W)} {now : Moment σ W} (h : Accounted m past now)
    (outcome : Option (Except ModelError Unit)) :
    Accounted m (past ++ [now]) ⟨now.item.withOutcome outcome, .concluded⟩ := by
  obtain ⟨model, changed, base, last, tracks⟩ := h
  refine ⟨model, ?_, base, ?_, tracks⟩
  · intro name
    have unaltered : ¬ now.Alters ⟨now.item.withOutcome outcome, .concluded⟩ name := by
      rintro ⟨member, ⟨⟩, -⟩
    refine (changed name).trans (and_congr_right fun _ => ?_)
    rw [altered_append]
    simp [unaltered]
  · rw [lastBaseline?_append]
    exact last

theorem next (coherent : m.Coherent keyBase) {past : List (Moment σ W)} {now next : Moment σ W}
    (h : Accounted m past now) (step : now.item.Next next) : Accounted m (past ++ [now]) next := by
  have model := h.model_eq
  generalize same : now.item = i at step
  cases step with
  | written v set =>
    rw [← same] at set
    exact h.written coherent set
  | adopted record => exact .settled (same ▸ model) rfl past now
  | saved s => exact .settled (same ▸ model) rfl past now
  | concluded outcome bound =>
    rw [← same]
    exact h.concluded outcome

end Accounted

/-! ## All moments -/

/-- What each step keeps of a moment and those before it holds of all moments of a path. -/
theorem Path.keeps_history {i j : Item σ W} {l : List (Moment σ W)} (h : Path i l j)
    {P : List (Moment σ W) → Moment σ W → Prop}
    (step : ∀ past now next, P past now → now.item.Next next → P (past ++ [now]) next)
    {past : List (Moment σ W)} {now : Moment σ W} (here : now.item = i) (start : P past now)
    {before after : List (Moment σ W)} {last : Moment σ W}
    (split : now :: l = before ++ last :: after) : P (past ++ before) last := by
  induction h generalizing past now before with
  | nil i =>
    rcases before with _ | ⟨first, before⟩
    · obtain ⟨rfl, -⟩ := List.cons.inj split
      simpa using start
    · simp at split
  | @cons i j following rest next path ih =>
    subst here
    rcases before with _ | ⟨first, before⟩
    · obtain ⟨rfl, -⟩ := List.cons.inj split
      simpa using start
    · obtain ⟨rfl, remaining⟩ := List.cons.inj split
      have reached := ih rfl (step past now following start next) remaining
      rwa [List.append_assoc, List.singleton_append] at reached

namespace Item

/-- An item of any model, made with or without an identity, on which any operations are carried out,
each within any session, whether they fail or not. At each moment, also in the middle of an
operation, the changed properties are the declared ones that a write, of code or from outside, has
altered since the baseline. There is a baseline, and a declared property is among the changed ones
if its value is another one than at the baseline, and not the same. -/
theorem mem_changed_iff_altered (compiled : m.Compiled keyBase) (id : Option Uuid)
    (adapter : Option (Adapter W)) (policy : Option UnsavedPolicy)
    (ops : List (Operation × Session σ W)) {past later : List (Moment σ W)} {now : Moment σ W}
    (moment : (create m id adapter policy).life ops = past ++ now :: later) :
    (∀ name, name ∈ now.item.changed.names ↔
      name ∈ m.schema.properties.names ∧ Altered (past ++ [now]) name) ∧
    ∃ base, lastBaseline? (past ++ [now]) = some base ∧
      ∀ name ∈ m.schema.properties.names,
        base.item.properties.get? name ≠ now.item.properties.get? name →
        base.item.Differs now.item name → name ∈ now.item.changed.names := by
  have path := (create m id adapter policy).path_goesThrough ops
  have made : Accounted m [] ⟨create m id adapter policy, .made⟩ := .made rfl rfl
  have accounted : Accounted m ([] ++ past) now :=
    path.keeps_history (fun _ _ _ => Accounted.next compiled.coherent) rfl made moment
  obtain ⟨rfl, changed, base, last, tracks⟩ := accounted
  refine ⟨changed, base, last, ?_⟩
  intro name declared other differs
  -- A property that is not recorded would agree with the baseline.
  by_contra unrecorded
  rcases tracks name declared (Bag.not_mem_names.1 unrecorded) with same | same
  · exact other same
  · exact absurd (same.symm.trans differs) (by simp)

end Item

/-- The badge as the code leaves it that runs before it is saved. -/
def badgeMoment : Moment Unit Memory :=
  (newBadge.life badgeOperations).get ⟨2, by decide +kernel⟩

/-- In the middle of saving a badge its title, which has been written, is altered. -/
theorem mem_changed_iff_altered_badge :
    badgeModel.Compiled "models" ∧
      newBadge.life badgeOperations = (newBadge.life badgeOperations).take 2 ++ badgeMoment ::
        (newBadge.life badgeOperations).drop 3 ∧
      badgeMoment.cause = .written "title" ∧
      Altered ((newBadge.life badgeOperations).take 2 ++ [badgeMoment]) "title" := by
  have inside : 2 < (newBadge.life badgeOperations).length := by decide +kernel
  have moment : newBadge.life badgeOperations = (newBadge.life badgeOperations).take 2 ++
      badgeMoment :: (newBadge.life badgeOperations).drop 3 := by
    have split := List.take_append_drop 2 (newBadge.life badgeOperations)
    rw [List.drop_eq_getElem_cons inside] at split
    exact split.symm
  obtain ⟨exact, -⟩ :=
    Item.mem_changed_iff_altered badgeModel_compiled none none none badgeOperations moment
  have changed : "title" ∈ badgeMoment.item.changed.names := by decide +kernel
  exact ⟨badgeModel_compiled, moment, by decide +kernel, ((exact "title").1 changed).2⟩

end EntityStore
