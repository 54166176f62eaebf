import EntityStore.Proofs.Item.Saved
import EntityStore.Proofs.Model

set_option autoImplicit false

/-! # What is written has been checked

An item is checked when it is saved, and the record is written some stages later. In between only
the code for three events runs (`Stage.afterCheck`), in a fixed order. What it leaves is written, so
what is written may violate constraints again, yet only where that code changed a property that had
been checked (`save_writes_checked`). Without such code the written properties meet all constraints.

Code that runs after the check can break a constraint (`saved_below_limit`). -/

namespace EntityStore

variable {σ W : Type}

/-! ## Violations -/

/-- A property that has a violation has another value than where nothing is violated. -/
theorem Pipeline.get?_ne_of_violation {p : Pipeline} {checked bag : Properties}
    (valid : p.violations checked = []) {v : Violation} (h : v ∈ p.violations bag) :
    checked.get? v.property ≠ bag.get? v.property := by
  unfold violations at h
  obtain ⟨step, member, violated⟩ := List.mem_flatMap.1 h
  obtain ⟨c, broken, rfl⟩ := List.mem_map.1 violated
  intro same
  -- With the same value the step would have found the violation before.
  have found : (⟨step.name, c⟩ : Violation) ∈ p.violations checked := by
    refine List.mem_flatMap.2 ⟨step, member, List.mem_map.2 ⟨c, ?_, rfl⟩⟩
    rw [same]
    exact broken
  rw [valid] at found
  exact absurd found List.not_mem_nil

/-! ## Stages between the check and the write -/

namespace Stage

/-- The stages between the check and the write in which code runs, for an item that is new or
not. -/
def afterCheck (isNew : Bool) : List Stage :=
  [.event .afterValidate, .event .beforeSave] ++ if isNew then [.event .beforeCreate] else []

/-- Stages of events without code do nothing. -/
theorem affectAll_eq_self {stages : List Stage} {x : Item σ W × σ}
    (silent : ∀ e, .event e ∈ stages → x.1.model.hook? e = none) : affectAll stages x = x := by
  induction stages with
  | nil => rfl
  | cons stage rest ih =>
    have unaffected : stage.affect x = x := by
      cases stage with
      | event e =>
        unfold affect
        simp [silent e List.mem_cons_self]
      | _ => rfl
    unfold affectAll
    rw [List.foldl_cons, unaffected]
    exact ih fun e member => silent e (List.mem_cons_of_mem _ member)

theorem mem_afterCheck {isNew : Bool} {e : LifecycleEvent} (h : .event e ∈ afterCheck isNew) :
    e = .afterValidate ∨ e = .beforeSave ∨ e = .beforeCreate := by
  cases isNew with
  | true => simpa [afterCheck] using h
  | false =>
    have early : e = .afterValidate ∨ e = .beforeSave := by simpa [afterCheck] using h
    rcases early with rfl | rfl <;> simp

end Stage

/-- Stages all of which are done, the first one first. -/
theorem Course.cons_ok {stage : Stage} {rest executed : List Stage} {p z : Progress σ W}
    (h : Course (stage :: rest) (stage :: executed) p (.ok ()) z) :
    ∃ q, stage.run p = (.ok (), q) ∧ Course rest executed q (.ok ()) z := by
  cases h with
  | passed run next => exact ⟨_, run, next⟩

/-- Before the write, the item has been checked without violations, and it is now as the code that
runs after that leaves it. -/
theorem Course.checked {i : Item σ W} {s : Session σ W} {isNew : Bool} {p : Progress σ W}
    (h : Course (Stage.beforeWrite isNew) (Stage.beforeWrite isNew) (i.toSave s) (.ok ()) p) :
    let checked := (Stage.event .beforeValidate).affect (i, s.notes)
    i.model.pipeline.violations checked.1.properties = [] ∧
      p.subject = Stage.affectAll (Stage.afterCheck isNew) checked := by
  intro checked
  obtain ⟨p₁, conflict, h⟩ := h.cons_ok
  obtain ⟨p₂, before, h⟩ := h.cons_ok
  obtain ⟨p₃, check, h⟩ := h.cons_ok
  obtain ⟨p₄, after, h⟩ := h.cons_ok
  obtain ⟨p₅, verdict, h⟩ := h.cons_ok
  have go₁ := Stage.goes_of_run rfl conflict
  have go₂ := go₁.trans (Stage.goes_of_run rfl before)
  have found : p₂.subject = checked := go₂.affected
  have model : p₂.item.model = i.model := go₂.events.model_eq
  -- What is collected at the check is judged after the code for the next event.
  have collected : p₄.violations = p₂.item.model.pipeline.violations p₂.item.properties := by
    have kept : p₃.violations = p₄.violations := congrArg (·.2.violations) after
    have asked : _ = p₃.violations := congrArg (·.2.violations) check
    exact kept.symm.trans asked.symm
  have none : p₄.violations = [] := by
    have passed : (if p₄.violations.isEmpty then .ok () else .error (.validation p₄.violations)) =
      (Except.ok () : Except ModelError Unit) := congrArg (·.1) verdict
    split at passed
    · next empty => exact List.isEmpty_iff.1 empty
    · simp at passed
  refine ⟨?_, ?_⟩
  · rw [← none, collected, model, ← found]
    rfl
  · have quiet : ∀ stage ∈ Stage.event .beforeSave :: if isNew then [.event .beforeCreate] else [],
        stage.isQuiet = true := by
      cases isNew <;> decide
    have later := ((Stage.goes_of_run rfl check).trans (Stage.goes_of_run rfl after)).trans
      ((Stage.goes_of_run rfl verdict).trans (h.goes quiet))
    -- Neither the check nor the verdict touches the item.
    rw [later.affected, found]
    rfl

/-! ## Writes of a session -/

/-- From one session to a later one, all that was written passes a test: the handle of the model,
the identity and the properties. -/
def Session.WritesMeet (s t : Session σ W) (P : Nat → Uuid → Properties → Prop) : Prop :=
  ∃ steps, t.journal = s.journal ++ steps ∧
    ∀ handle id bag, .write handle id bag true ∈ steps → P handle id bag

namespace Session.WritesMeet

variable {s t u : Session σ W} {P : Nat → Uuid → Properties → Prop}

theorem trans (h : s.WritesMeet t P) (h' : t.WritesMeet u P) : s.WritesMeet u P := by
  obtain ⟨steps, journal, meets⟩ := h
  obtain ⟨steps', journal', meets'⟩ := h'
  refine ⟨steps ++ steps', by rw [journal', journal, List.append_assoc], ?_⟩
  intro handle id bag written
  rcases List.mem_append.1 written with written | written
  · exact meets handle id bag written
  · exact meets' handle id bag written

theorem of_quiet (h : s.Quiet t) : s.WritesMeet t P := by
  obtain ⟨steps, notes, quiet, rfl⟩ := h
  refine ⟨steps, rfl, ?_⟩
  intro handle id bag written
  exact absurd (quiet _ written) (by simp [Step.isQuiet])

end Session.WritesMeet

/-- The only stage that writes is the write, and it writes the properties of the item. -/
theorem Stage.writesMeet_run_write {p q : Progress σ W} {r : Except ModelError Unit}
    (run : Stage.write.run p = (r, q)) {P : Nat → Uuid → Properties → Prop}
    (meets : P p.item.model.handle p.id p.item.properties) : p.session.WritesMeet q.session P := by
  obtain ⟨minted, written⟩ := Stage.run_write p
  rw [run] at written
  dsimp only at written
  subst written
  refine ⟨[_], rfl, ?_⟩
  intro handle id bag step
  obtain ⟨rfl, rfl, rfl, -⟩ := Step.write.inj (List.mem_singleton.1 step)
  exact meets

/-- In a course through all stages, what is written passes a test that the item passes which the
stages before the write leave. -/
theorem Course.writesMeet {isNew : Bool} {executed : List Stage} {p z : Progress σ W}
    {r : Except ModelError Unit} (h : Course (Stage.plan isNew) executed p r z)
    {P : Nat → Uuid → Properties → Prop}
    (meets : ∀ q, Course (Stage.beforeWrite isNew) (Stage.beforeWrite isNew) p (.ok ()) q →
      P q.item.model.handle q.id q.item.properties) : p.session.WritesMeet z.session P := by
  rcases Course.append h with ⟨early, -⟩ | ⟨q, later, rfl, before, course⟩
  · exact .of_quiet (early.goes (quiet_beforeWrite _)).quiet
  refine .trans (.of_quiet (before.goes (quiet_beforeWrite _)).quiet) ?_
  cases course with
  | failed run => exact Stage.writesMeet_run_write run (meets q before)
  | passed run course =>
    refine .trans (Stage.writesMeet_run_write run (meets q before)) ?_
    cases course with
    | failed run => exact absurd (Prod.ext_iff.1 run).1 (by simp [Stage.run])
    | @passed _ _ _ _ u _ _ indexed course =>
      obtain rfl : (Stage.index.run _).2 = u := (Prod.ext_iff.1 indexed).2
      have quiet := (course.goes (quiet_afterIndex _)).quiet
      exact .trans ⟨[.index], rfl, by simp⟩ (.of_quiet quiet)

/-! ## Saving -/

/-- Whenever saving an item writes a record, the item has been checked without violations, as the
code of `beforeValidate` left it. Then the code of `afterValidate`, `beforeSave` and, for a new
item, `beforeCreate` ran, one after the other, and the properties that are written are those that it
left. Where they violate a constraint again, that code gave the property another value than the
checked one; if there is no such code they violate none. -/
theorem save_writes_checked (i : Item σ W) (s : Session σ W) :
    ItemRun.save.Ends (fun _ _ t => s.WritesMeet t fun handle id bag =>
      let checked := (Stage.event .beforeValidate).affect (i, s.notes)
      let violations := i.model.pipeline.violations
      handle = i.model.handle ∧ id = (i.identityIn s).1 ∧
      violations checked.1.properties = [] ∧
      bag = (Stage.affectAll (Stage.afterCheck i.id.isNone) checked).1.properties ∧
      (∀ v ∈ violations bag, checked.1.properties.get? v.property ≠ bag.get? v.property) ∧
      ((∀ e ∈ [.afterValidate, .beforeSave, .beforeCreate], i.model.hook? e = none) →
        violations bag = [])) i s := by
  refine ItemRun.ends_mono (ItemRun.ends_save_course i s) ?_
  rintro r j t ⟨executed, z, course, rfl, rfl⟩
  refine course.writesMeet (p := i.toSave s) ?_
  intro q before
  have go := before.goes (quiet_beforeWrite _)
  obtain ⟨valid, left⟩ := before.checked
  have bag : q.item.properties = (Stage.affectAll (Stage.afterCheck i.id.isNone)
      ((Stage.event .beforeValidate).affect (i, s.notes))).1.properties :=
    congrArg (·.1.properties) left
  have model : q.item.model = i.model := go.events.model_eq
  refine ⟨by rw [model], go.id_eq, valid, bag, ?_, ?_⟩
  · intro v violated
    exact Pipeline.get?_ne_of_violation valid violated
  · intro silent
    rw [bag, Stage.affectAll_eq_self ?_]
    · exact valid
    · intro e member
      have event := Stage.mem_afterCheck member
      have same := (Stage.afterEvents_affect (.event .beforeValidate) (i, s.notes)).model_eq
      rw [same]
      exact silent e (by simpa using event)

/-! A person has a height of at least 50, and code that sets it to 10 before the person is saved. -/

/-- The height of a person is 60 at first, and must be at least 50. -/
def personDraft : Draft Unit :=
  { properties := [("height",
      { typeName := "integer", min := some (.integer 50), default := some (.integer 60) })]
    hooks := [("beforeSave", some (Script.assign "height" (.integer 10)))] }

/-- The model of persons, which are kept in memory. -/
def personModel : Model Unit Memory :=
  (Model.compile { adapter := Memory.adapter 1 true } 1 "Person" personDraft
    (.root { adapter := Memory.adapter 1 true }) none).toOption.get (by decide +kernel)

/-- A session in which no person is stored. -/
def personSession : Session Unit Memory := { store := {}, notes := (), identities := .ofNat }

theorem personModel_compiled : personModel.Compiled "models" :=
  .compile { adapter := Memory.adapter 1 true } 1 "Person" personDraft none
    (.root { adapter := Memory.adapter 1 true }) (Except.eq_ok_get _ _)

/-- A person below the least height is written. -/
theorem saved_below_limit :
    ¬ ∀ (m : Model Unit Memory) (i : Item Unit Memory) (s : Session Unit Memory),
      m.Compiled "models" → i.model = m → ItemRun.save.Ends (fun _ _ t =>
        s.WritesMeet t fun _ _ bag => m.pipeline.violations bag = []) i s := by
  intro valid
  obtain ⟨steps, journal, meets⟩ := valid personModel (.create personModel none none none)
    personSession personModel_compiled rfl
  have written : Step.write 1 (.ofNat 0) (Bag.ofList [("height", .integer 10)]) true ∈
      (ItemRun.save.run.run (.create personModel none none none, personSession)).2.2.journal := by
    decide +kernel
  rw [journal] at written
  exact absurd (meets _ _ _ written) (by decide +kernel)

end EntityStore
