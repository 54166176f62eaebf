import EntityStore.Proofs.Schema.Names

set_option autoImplicit false

/-! # What a draft without problems declares

A draft lists declarations. If no problem is found in it, its normal form has what it lists and
nothing else (`Draft.declares_normalize`): the properties are in the order in which they are listed,
and every name and every event stands for the declaration that the draft gives it, in normal form.
Only options may be listed more than once, and then the last one counts. -/

namespace EntityStore

variable {σ : Type}

theorem findSome?_cons_eq {α β : Type} (f : α → Option β) (a : α) (l : List α) :
    (a :: l).findSome? f = (f a).or (l.findSome? f) := by
  cases h : f a <;> simp [h]

/-! ## The declarations of a draft -/

/-- The policy for which an option stands, if it is the one for unsaved changes. -/
def policyOfOption? : String × Json → Option UnsavedPolicy
  | (name, .string text) => if name = "onUnsaved" then UnsavedPolicy.ofName? text else none
  | _ => none

namespace Draft

/-- The declaration of a property. -/
def property? [Pattern.Reader] (d : Draft σ) (name : String) : Option Property :=
  d.properties.findSome? fun e => if e.1 = name then (normalProperty e.1 e.2).1 else none

/-- The declaration of a computed property. -/
def computed? (d : Draft σ) (name : String) : Option Computed :=
  d.computed.findSome? fun e =>
    if (normalComputed e.1 e.2).1 = name then some (normalComputed e.1 e.2).2.1 else none

/-- The code of a method. -/
def method? (d : Draft σ) (name : String) : Option (Method σ) :=
  d.methods.findSome? fun e => if e.1 = name then e.2 else none

/-- The code for an event, under its name or its alias. -/
def hook? (d : Draft σ) (event : LifecycleEvent) : Option (Hook σ) :=
  d.hooks.findSome? fun e => if LifecycleEvent.ofName? e.1 = some event then e.2 else none

/-- The policy for unsaved changes. -/
def policy? (d : Draft σ) : Option UnsavedPolicy := d.options.reverse.findSome? policyOfOption?

/-- An option other than the policy for unsaved changes. -/
def extra? (d : Draft σ) (name : String) : Option Json :=
  d.options.reverse.findSome? fun e => if e.1 = name ∧ name ≠ "onUnsaved" then some e.2 else none

/-- A schema has what a draft lists, and nothing else. -/
structure Declares [Pattern.Reader] (d : Draft σ) (s : Schema σ) : Prop where
  /-- The properties are in the order of the list. -/
  names_eq : s.properties.names = d.properties.map (·.1)
  /-- They are those of the list. -/
  property_eq : ∀ name, s.properties.get? name = d.property? name
  /-- So are the computed properties. -/
  computed_eq : ∀ name, s.computed.get? name = d.computed? name
  /-- So are the methods. -/
  method_eq : ∀ name, s.methods.get? name = d.method? name
  /-- So is the code for events. -/
  hook_eq : ∀ event, s.hooks event = d.hook? event
  /-- So is the policy for unsaved changes. -/
  policy_eq : s.options.onUnsaved = d.policy?
  /-- So are all other options. -/
  extra_eq : ∀ name, s.options.extra.get? name = d.extra? name

/-- The draft without anything that it declares. -/
def bare (d : Draft σ) : Draft σ :=
  { d with properties := [], computed := [], methods := [], hooks := [], options := [] }

theorem declares_bare [Pattern.Reader] (d : Draft σ) : d.bare.Declares {} where
  names_eq := rfl
  property_eq _ := rfl
  computed_eq _ := rfl
  method_eq _ := rfl
  hook_eq _ := rfl
  policy_eq := rfl
  extra_eq _ := rfl

end Draft

/-! ## One declaration after the other -/

namespace Normalizing

variable {base : Schema σ} {n : Normalizing σ}

theorem report_eq_nil {problems : List Problem} (h : (n.report problems).problems = []) :
    n.problems = [] ∧ problems = [] := List.append_eq_nil_iff.1 h

/-- A name that was taken without a problem is new, and its member is declared. -/
theorem takeName_of_clean (fits : n.Fits base) {kind : MemberKind} {name : String}
    {declare : Normalizing σ → Normalizing σ}
    (clean : (n.takeName base kind name declare).problems = [])
    (grows : ∀ m, (declare m).problems = [] → m.problems = []) :
    n.problems = [] ∧ n.schema.declares kind name = false ∧
      n.takeName base kind name declare = declare { n with seen := n.seen.add name } := by
  unfold takeName at clean ⊢
  dsimp only at clean ⊢
  split at clean
  · exact absurd (report_eq_nil clean).2 (by simp)
  next fine =>
  refine ⟨grows { n with seen := n.seen.add name } clean, ?_, rfl⟩
  obtain ⟨-, fresh, -⟩ := nameFault?_eq_none fine
  rw [Bool.eq_false_iff]
  intro declared
  simp [fits.seen kind name declared] at fresh

theorem addProperty_of_clean [Pattern.Reader] (fits : n.Fits base) {e : String × Property}
    (clean : (addProperty base n e).problems = []) :
    n.problems = [] ∧ n.schema.properties.get? e.1 = none ∧
      ∃ p, (normalProperty e.1 e.2).1 = some p ∧ (addProperty base n e).schema =
        { n.schema with properties := n.schema.properties.insert e.1 p } := by
  unfold addProperty at clean ⊢
  dsimp only at clean ⊢
  cases normal : (normalProperty e.1 e.2).1 with
  | none =>
    -- A property without a type is a problem.
    rw [normal] at clean
    have problem := (report_eq_nil clean).2
    unfold normalProperty at normal problem
    split at normal
    · next missing =>
      rw [missing] at problem
      exact absurd problem (by simp)
    · exact absurd normal (by simp)
  | some p =>
    rw [normal] at clean
    dsimp only at clean ⊢
    obtain ⟨before, fresh, taken⟩ := takeName_of_clean (fits.report _) clean fun _ h => h
    have fresh : n.schema.properties.contains e.1 = false := fresh
    refine ⟨(report_eq_nil before).1, by simpa [Section.contains] using fresh, p, rfl, ?_⟩
    rw [taken]
    rfl

theorem addComputed_of_clean (fits : n.Fits base) {e : String × ComputedDraft}
    (clean : (addComputed base n e).problems = []) :
    n.problems = [] ∧ n.schema.computed.get? (normalComputed e.1 e.2).1 = none ∧
      (addComputed base n e).schema = { n.schema with
        computed := n.schema.computed.insert (normalComputed e.1 e.2).1
          (normalComputed e.1 e.2).2.1 } := by
  unfold addComputed at clean ⊢
  dsimp only at clean ⊢
  obtain ⟨before, fresh, taken⟩ := takeName_of_clean (fits.report _) clean fun _ h => h
  have fresh : n.schema.computed.contains (normalComputed e.1 e.2).1 = false := fresh
  refine ⟨(report_eq_nil before).1, by simpa [Section.contains] using fresh, ?_⟩
  rw [taken]
  rfl

theorem addMethod_of_clean (fits : n.Fits base) {e : String × Option (Method σ)}
    (clean : (addMethod base n e).problems = []) :
    n.problems = [] ∧ n.schema.methods.get? e.1 = none ∧ ∃ code, e.2 = some code ∧
      (addMethod base n e).schema =
        { n.schema with methods := n.schema.methods.insert e.1 code } := by
  unfold addMethod at clean ⊢
  obtain ⟨before, fresh, taken⟩ := takeName_of_clean fits clean fun m h => by
    split at h
    · exact h
    · exact (report_eq_nil h).1
  rw [taken] at clean ⊢
  split at clean
  · next code given =>
    exact ⟨before, by simpa [Schema.declares, Section.contains] using fresh, code, given, rfl⟩
  · exact absurd (report_eq_nil clean).2 (by simp)

theorem addHook_of_clean {e : String × Option (Hook σ)} (clean : (addHook n e).problems = []) :
    n.problems = [] ∧ ∃ event code, LifecycleEvent.ofName? e.1 = some event ∧ e.2 = some code ∧
      n.schema.hooks event = none ∧ (addHook n e).schema = n.schema.setHook event code := by
  unfold addHook at clean ⊢
  split at clean
  · exact absurd (report_eq_nil clean).2 (by simp)
  · exact absurd (report_eq_nil clean).2 (by simp)
  · next event code known given =>
    obtain ⟨before, once⟩ := report_eq_nil clean
    refine ⟨before, event, code, known, given, ?_, rfl⟩
    cases again : n.schema.hooks event with
    | none => rfl
    | some _ => exact absurd once (by simp [again])

theorem addOption_of_clean {e : String × Json} (clean : (addOption n e).problems = []) :
    n.problems = [] ∧ (addOption n e).schema = { n.schema with options :=
      { onUnsaved := (policyOfOption? e).or n.schema.options.onUnsaved
        extra := if e.1 = "onUnsaved" then n.schema.options.extra
          else n.schema.options.extra.insert e.1 e.2 } } := by
  obtain ⟨name, j⟩ := e
  unfold addOption at clean ⊢
  dsimp only at clean ⊢
  by_cases policy : name = "onUnsaved"
  · rw [if_pos policy] at clean ⊢
    rw [if_pos policy]
    cases j with
    | null => exact ⟨clean, rfl⟩
    | string text =>
      dsimp only at clean ⊢
      cases known : UnsavedPolicy.ofName? text with
      | none =>
        rw [known] at clean
        exact absurd (report_eq_nil clean).2 (by simp)
      | some p =>
        rw [known] at clean
        refine ⟨clean, ?_⟩
        simp [policyOfOption?, policy, known]
    | bool b => exact absurd (report_eq_nil clean).2 (by simp)
    | integer i => exact absurd (report_eq_nil clean).2 (by simp)
    | number x => exact absurd (report_eq_nil clean).2 (by simp)
    | array l => exact absurd (report_eq_nil clean).2 (by simp)
    | object l => exact absurd (report_eq_nil clean).2 (by simp)
  · rw [if_neg policy] at clean ⊢
    rw [if_neg policy]
    refine ⟨clean, ?_⟩
    have none : policyOfOption? (name, j) = none := by cases j <;> simp [policyOfOption?, policy]
    rw [none, Option.none_or]

end Normalizing

namespace Draft.Declares

variable {base : Schema σ} {n : Normalizing σ} {d : Draft σ}

theorem addProperty [Pattern.Reader] (h : d.Declares n.schema) (fits : n.Fits base)
    {e : String × Property} (clean : (Normalizing.addProperty base n e).problems = []) :
    (d.property e.1 e.2).Declares (Normalizing.addProperty base n e).schema := by
  obtain ⟨-, fresh, p, normal, schema⟩ := Normalizing.addProperty_of_clean fits clean
  rw [schema]
  refine { h with names_eq := ?_, property_eq := ?_ }
  · have unknown : e.1 ∉ n.schema.properties.names := by simp [Section.mem_names, fresh]
    rw [Section.names_insert, if_neg unknown, h.names_eq]
    simp [Draft.property]
  · intro name
    have listed : (d.property e.1 e.2).property? name =
        (d.property? name).or (if e.1 = name then some p else none) := by
      simp [Draft.property, property?, List.findSome?_append, normal]
    rw [listed, ← h.property_eq, Section.get?_insert]
    by_cases hn : e.1 = name
    · subst hn
      simp [fresh]
    · simp [hn, Ne.symm hn]

theorem addComputed [Pattern.Reader] (h : d.Declares n.schema) (fits : n.Fits base)
    {e : String × ComputedDraft} (clean : (Normalizing.addComputed base n e).problems = []) :
    (d.computedProperty e.1 e.2).Declares (Normalizing.addComputed base n e).schema := by
  obtain ⟨-, fresh, schema⟩ := Normalizing.addComputed_of_clean fits clean
  rw [schema]
  refine { h with computed_eq := ?_ }
  intro name
  have listed : (d.computedProperty e.1 e.2).computed? name = (d.computed? name).or
      (if (normalComputed e.1 e.2).1 = name then some (normalComputed e.1 e.2).2.1 else none) := by
    simp [Draft.computedProperty, computed?, List.findSome?_append]
  rw [listed, ← h.computed_eq, Section.get?_insert]
  by_cases hn : (normalComputed e.1 e.2).1 = name
  · subst hn
    simp [fresh]
  · simp [hn, Ne.symm hn]

theorem addMethod [Pattern.Reader] (h : d.Declares n.schema) (fits : n.Fits base)
    {e : String × Option (Method σ)} (clean : (Normalizing.addMethod base n e).problems = []) :
    (d.method e.1 e.2).Declares (Normalizing.addMethod base n e).schema := by
  obtain ⟨-, fresh, code, given, schema⟩ := Normalizing.addMethod_of_clean fits clean
  rw [schema]
  refine { h with method_eq := ?_ }
  intro name
  have listed : (d.method e.1 e.2).method? name =
      (d.method? name).or (if e.1 = name then some code else none) := by
    simp [Draft.method, method?, List.findSome?_append, given]
  rw [listed, ← h.method_eq, Section.get?_insert]
  by_cases hn : e.1 = name
  · subst hn
    simp [fresh]
  · simp [hn, Ne.symm hn]

theorem addHook [Pattern.Reader] (h : d.Declares n.schema) {e : String × Option (Hook σ)}
    (clean : (Normalizing.addHook n e).problems = []) :
    (d.hook e.1 e.2).Declares (Normalizing.addHook n e).schema := by
  obtain ⟨-, event, code, known, given, fresh, schema⟩ := Normalizing.addHook_of_clean clean
  rw [schema]
  refine { h with hook_eq := ?_ }
  intro other
  have listed : (d.hook e.1 e.2).hook? other =
      (d.hook? other).or (if event = other then some code else none) := by
    simp [Draft.hook, hook?, List.findSome?_append, known, given]
  rw [listed, ← h.hook_eq]
  unfold Schema.setHook
  by_cases he : event = other
  · subst he
    simp [fresh]
  · simp [he, Ne.symm he]

/-- Of two options with one name, the later one counts. -/
theorem addOption [Pattern.Reader] (h : d.Declares n.schema) {e : String × Json}
    (clean : (Normalizing.addOption n e).problems = []) :
    (d.option e.1 e.2).Declares (Normalizing.addOption n e).schema := by
  obtain ⟨-, schema⟩ := Normalizing.addOption_of_clean clean
  rw [schema]
  refine { h with policy_eq := ?_, extra_eq := ?_ }
  · have listed : (d.option e.1 e.2).policy? = (policyOfOption? e).or d.policy? := by
      simp [Draft.option, policy?, findSome?_cons_eq]
    rw [listed, ← h.policy_eq]
  · intro name
    have listed : (d.option e.1 e.2).extra? name =
        (if e.1 = name ∧ name ≠ "onUnsaved" then some e.2 else none).or (d.extra? name) := by
      simp [Draft.option, extra?, findSome?_cons_eq]
    rw [listed, ← h.extra_eq]
    dsimp only
    by_cases policy : e.1 = "onUnsaved"
    · have other : ¬(e.1 = name ∧ name ≠ "onUnsaved") := fun ⟨same, ne⟩ => ne (same ▸ policy)
      rw [if_pos policy, if_neg other, Option.none_or]
    · rw [if_neg policy, Bag.get?_insert]
      by_cases hn : e.1 = name
      · subst hn
        simp [policy]
      · simp [hn, Ne.symm hn]

end Draft.Declares

/-! ## All declarations -/

namespace Normalizing

variable {α : Type} {base : Schema σ} {n : Normalizing σ} {f : Normalizing σ → α → Normalizing σ}

/-- A step keeps the names in order, and it keeps the problems that there are. -/
structure IsStep (base : Schema σ) (f : Normalizing σ → α → Normalizing σ) : Prop where
  /-- Names stay in order. -/
  fits : ∀ {n}, n.Fits base → ∀ a, (f n a).Fits base
  /-- Problems stay. -/
  grows : ∀ {n}, n.Fits base → ∀ a, (f n a).problems = [] → n.problems = []

namespace IsStep

theorem addProperty [Pattern.Reader] : IsStep base (addProperty base) :=
  ⟨fun h e => h.addProperty e, fun h _ clean => (addProperty_of_clean h clean).1⟩

theorem addComputed : IsStep base (addComputed base) :=
  ⟨fun h e => h.addComputed e, fun h _ clean => (addComputed_of_clean h clean).1⟩

theorem addMethod : IsStep base (addMethod base) :=
  ⟨fun h e => h.addMethod e, fun h _ clean => (addMethod_of_clean h clean).1⟩

theorem addHook : IsStep base (addHook (σ := σ)) :=
  ⟨fun h e => h.addHook e, fun _ _ clean => (addHook_of_clean clean).1⟩

theorem addOption : IsStep base (addOption (σ := σ)) :=
  ⟨fun h e => h.addOption e, fun _ _ clean => (addOption_of_clean clean).1⟩

variable (step : IsStep base f)
include step

theorem foldl (l : List α) (h : n.Fits base) :
    (l.foldl f n).Fits base ∧ ((l.foldl f n).problems = [] → n.problems = []) := by
  induction l generalizing n with
  | nil => exact ⟨h, id⟩
  | cons a l ih =>
    obtain ⟨fits, clean⟩ := ih (step.fits h a)
    exact ⟨fits, fun none => step.grows h a (clean none)⟩

/-- What holds of the declarations so far and of the schema to which they came holds in the end, if
there is no problem in the end. -/
theorem foldl_of_clean {P : List α → Schema σ → Prop}
    (next : ∀ {done m a}, m.Fits base → P done m.schema → (f m a).problems = [] →
      P (done ++ [a]) (f m a).schema)
    (l : List α) (h : n.Fits base) (clean : (l.foldl f n).problems = []) (start : P [] n.schema) :
    P l (l.foldl f n).schema := by
  suffices general : ∀ done, P done n.schema → P (done ++ l) (l.foldl f n).schema from
    general [] start
  clear start
  induction l generalizing n with
  | nil =>
    intro done hd
    simpa using hd
  | cons a l ih =>
    intro done hd
    -- The rest has no problems, so this declaration had none.
    have here := (step.foldl l (step.fits h a)).2 clean
    simpa using ih (step.fits h a) clean (done ++ [a]) (next h hd here)

end IsStep

end Normalizing

namespace Draft

/-- What holds of a draft that declares nothing and of the empty schema, and stays true when a
declaration without problems is added to the one and to the other. -/
structure Carries [Pattern.Reader] (base : Schema σ) (P : Draft σ → Schema σ → Prop) : Prop where
  start : ∀ d : Draft σ, P d.bare {}
  addProperty : ∀ {d : Draft σ} {n : Normalizing σ}, n.Fits base → P d n.schema → ∀ {e},
    (Normalizing.addProperty base n e).problems = [] →
      P (d.property e.1 e.2) (Normalizing.addProperty base n e).schema
  addComputed : ∀ {d : Draft σ} {n : Normalizing σ}, n.Fits base → P d n.schema → ∀ {e},
    (Normalizing.addComputed base n e).problems = [] →
      P (d.computedProperty e.1 e.2) (Normalizing.addComputed base n e).schema
  addMethod : ∀ {d : Draft σ} {n : Normalizing σ}, n.Fits base → P d n.schema → ∀ {e},
    (Normalizing.addMethod base n e).problems = [] →
      P (d.method e.1 e.2) (Normalizing.addMethod base n e).schema
  addHook : ∀ {d : Draft σ} {n : Normalizing σ}, P d n.schema → ∀ {e},
    (Normalizing.addHook n e).problems = [] →
      P (d.hook e.1 e.2) (Normalizing.addHook n e).schema
  addOption : ∀ {d : Draft σ} {n : Normalizing σ}, P d n.schema → ∀ {e},
    (Normalizing.addOption n e).problems = [] →
      P (d.option e.1 e.2) (Normalizing.addOption n e).schema

/-- What every declaration carries on holds of a draft without problems and its normal form. -/
theorem Carries.normalize [Pattern.Reader] {base : Schema σ} {P : Draft σ → Schema σ → Prop}
    (h : Carries base P)
    {d : Draft σ} {model : String} {isDerived : Bool}
    (clean : (d.normalize model base isDerived).2 = []) :
    P d (d.normalize model base isDerived).1 := by
  unfold Draft.normalize at clean ⊢
  dsimp only at clean ⊢
  generalize hstart : ({ problems := _ } : Normalizing σ) = start at clean ⊢
  have fits : start.Fits base := by
    rw [← hstart]
    refine ⟨base.fits_empty, fun kind name h => ?_⟩
    simp [Schema.declares_empty] at h
  have none : P d.bare start.schema := by
    rw [← hstart]
    exact h.start d
  -- Names are in order after each section, and no section has a problem.
  have fits₁ := (Normalizing.IsStep.addProperty.foldl d.properties fits).1
  have fits₂ := (Normalizing.IsStep.addComputed.foldl d.computed fits₁).1
  have fits₃ := (Normalizing.IsStep.addMethod.foldl d.methods fits₂).1
  have fits₄ := (Normalizing.IsStep.addHook.foldl d.hooks fits₃).1
  have clean₄ := (Normalizing.IsStep.addOption.foldl d.options fits₄).2 clean
  have clean₃ := (Normalizing.IsStep.addHook.foldl d.hooks fits₃).2 clean₄
  have clean₂ := (Normalizing.IsStep.addMethod.foldl d.methods fits₂).2 clean₃
  have clean₁ := (Normalizing.IsStep.addComputed.foldl d.computed fits₁).2 clean₂
  -- Each section adds what it lists.
  have properties := Normalizing.IsStep.addProperty.foldl_of_clean
    (P := fun l => P { d.bare with properties := l })
    (fun fits hp => h.addProperty fits hp) d.properties fits clean₁ none
  have computed := Normalizing.IsStep.addComputed.foldl_of_clean
    (P := fun l => P { d.bare with properties := d.properties, computed := l })
    (fun fits hp => h.addComputed fits hp) d.computed fits₁ clean₂ properties
  have methods := Normalizing.IsStep.addMethod.foldl_of_clean
    (P := fun l => P { d with methods := l, hooks := [], options := [] })
    (fun fits hp => h.addMethod fits hp) d.methods fits₂ clean₃ computed
  have hooks := Normalizing.IsStep.addHook.foldl_of_clean
    (P := fun l => P { d with hooks := l, options := [] })
    (fun _ hp => h.addHook hp) d.hooks fits₃ clean₄ methods
  exact Normalizing.IsStep.addOption.foldl_of_clean
    (P := fun l => P { d with options := l })
    (fun _ hp => h.addOption hp) d.options fits₄ clean hooks

theorem carries_declares [Pattern.Reader] {base : Schema σ} : Carries base Draft.Declares where
  start := declares_bare
  addProperty fits h _ clean := h.addProperty fits clean
  addComputed fits h _ clean := h.addComputed fits clean
  addMethod fits h _ clean := h.addMethod fits clean
  addHook h _ clean := h.addHook clean
  addOption h _ clean := h.addOption clean

/-- The normal form of a draft without problems has what the draft lists. -/
theorem declares_normalize [Pattern.Reader] {d : Draft σ} {model : String} {base : Schema σ}
    {isDerived : Bool}
    (clean : (d.normalize model base isDerived).2 = []) :
    d.Declares (d.normalize model base isDerived).1 := carries_declares.normalize clean

end Draft

end EntityStore
