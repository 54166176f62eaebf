import EntityStore.Proofs.Item.Sound

set_option autoImplicit false

/-! # Values that a computed property distributes

The code of a computed property may write any properties of an item. If all that it does is to give
some declared properties new values and to remove some, the item is left as it is left by writing
these properties one after the other, in whatever order (`Item.set_computed_distributes`). The two
ways have little in common: a written property is coerced by itself, and after the code of a
computed property the whole bag is. Both end with what `Receives` says, and two items of which that
can be said agree (`Receives.agree`). -/

namespace EntityStore

variable {σ W : Type} {keyBase : String} {m : Model σ W}

/-- Sets with the same names are equal. -/
theorem Names.ext_mem {a b : Names} (h : ∀ name, name ∈ a.names ↔ name ∈ b.names) : a = b := by
  refine Bag.ext_get? fun name => ?_
  have mem := h name
  rw [Bag.mem_names, Bag.mem_names] at mem
  cases ha : a.get? name with
  | none =>
    cases hb : b.get? name with
    | none => rfl
    | some u => simpa [ha] using mem.2 ⟨u, hb⟩
  | some u =>
    obtain ⟨u', hb⟩ := mem.1 ⟨u, ha⟩
    exact hb.symm

/-- Values for members, each of which may be written with its value, or removed. -/
abbrev Edits := List (String × Option Value)

/-- A bag has been edited, and nothing else was done to it. -/
structure Properties.Edited (before after : Properties) (edits : Edits) : Prop where
  touched : ∀ e ∈ edits, after.get? e.1 = e.2
  untouched : ∀ name, name ∉ edits.map (·.1) → after.get? name = before.get? name

/-- The value of a declared property in the form of its type, a removed one being `null`. -/
def Section.formed (sec : Section Property) (e : String × Option Value) : Option Value :=
  (sec.get? e.1).map fun p => p.type.coerce p none (e.2.getD .null)

namespace Agree

theorem symm {a b : Option Value} (h : Agree a b) : Agree b a := by
  obtain rfl | ⟨x, y, rfl, rfl, same⟩ := h.cases
  · exact .refl a
  · obtain ⟨hx, hy, key⟩ := Binary64.equals_iff.1 same
    exact .inr (Binary64.equals_iff.2 ⟨hy, hx, key.symm⟩)

end Agree

namespace Item

/-- Write members one after the other, `null` for a value that is removed. -/
def setAll (i : Item σ W) (edits : Edits) : Except ModelError (Item σ W) :=
  edits.foldlM (fun i e => i.set e.1 (e.2.getD .null)) i

/-- An item becomes another one in which properties have got the values of edits, and that records
those among them whose values are not the same. -/
structure Receives (i : Item σ W) (edits : Edits) (j : Item σ W) : Prop where
  frame : j = i.withContent j.properties j.changes
  untouched : ∀ name, name ∉ edits.map (·.1) → j.properties.get? name = i.properties.get? name
  touched : ∀ e ∈ edits, Agree (j.properties.get? e.1) (i.model.schema.properties.formed e)
  recorded : ∀ name, name ∈ j.changed.names ↔ name ∈ i.changed.names ∨
    ∃ e ∈ edits, e.1 = name ∧
      sameOrMissing (i.properties.get? name) (i.model.schema.properties.formed e) = false
  honest : i.changes.IsHonest → j.changes.IsHonest

namespace Receives

variable {i a b : Item σ W} {edits : Edits}

theorem perm {order : Edits} (h : i.Receives order a) (perm : order.Perm edits) :
    i.Receives edits a where
  frame := h.frame
  untouched name absent := h.untouched name fun listed => absent ((perm.map _).mem_iff.1 listed)
  touched e he := h.touched e (perm.mem_iff.2 he)
  recorded name := by
    rw [h.recorded name]
    simp only [perm.mem_iff]
  honest := h.honest

/-- What is not edited is not recorded. -/
theorem unrecorded (h : i.Receives edits a) {name : String} (absent : name ∉ edits.map (·.1)) :
    name ∈ a.changed.names ↔ name ∈ i.changed.names := by
  rw [h.recorded name]
  refine or_iff_left ?_
  rintro ⟨e, he, rfl, -⟩
  exact absent (List.mem_map_of_mem he)

theorem changes_eq (ha : i.Receives edits a) (hb : i.Receives edits b)
    (honest : i.changes.IsHonest) : a.changes = b.changes := by
  have recorded name : name ∈ a.changed.names ↔ name ∈ b.changed.names := by
    rw [ha.recorded name, hb.recorded name]
  have names : a.changes.names = b.changes.names := Names.ext_mem recorded
  have anyA : a.changes.any = true ↔ a.changes.names.names ≠ [] := ha.honest honest
  have anyB : b.changes.any = true ↔ b.changes.names.names ≠ [] := hb.honest honest
  have any : a.changes.any = b.changes.any := by rw [Bool.eq_iff_iff, anyA, anyB, names]
  cases changesA : a.changes
  cases changesB : b.changes
  rw [changesA, changesB] at names any
  exact congrArg₂ Changes.mk names any

/-- Two items that have received the same edits agree. -/
theorem agree (ha : i.Receives edits a) (hb : i.Receives edits b) (name : String) :
    Agree (a.properties.get? name) (b.properties.get? name) := by
  by_cases edited : name ∈ edits.map (·.1)
  · obtain ⟨e, he, rfl⟩ := List.mem_map.1 edited
    exact (ha.touched e he).trans (hb.touched e he).symm
  · rw [ha.untouched name edited, hb.untouched name edited]
    exact .refl _

/-- Two items that have received the same edits differ at most in the values of properties. -/
theorem eq_with_properties (ha : i.Receives edits a) (hb : i.Receives edits b)
    (honest : i.changes.IsHonest) : a = { b with properties := a.properties } := by
  rw [ha.frame, hb.frame, ha.changes_eq hb honest]
  rfl

end Receives

/-! ## What a name is written as -/

section Members

variable {i : Item σ W} {name : String}

theorem set_of_property (compiled : m.Compiled keyBase) (model : i.model = m) {p : Property}
    (declared : m.schema.properties.get? name = some p) (v : Value) :
    i.set name v = .ok (i.setProperty name p v) := by
  have member : m.accessors.get? name = some (.property p) := by
    rw [compiled.accessors_eq, Accessor.get?_table compiled.wellNamed]
    exact .property declared
  rw [Item.set, model, member]

theorem set_of_computed (compiled : m.Compiled keyBase) (model : i.model = m) {c : Computed}
    (declared : m.schema.computed.get? name = some c) (v : Value) :
    i.set name v = .ok (i.setComputed c v) := by
  have member : m.accessors.get? name = some (.computed c) := by
    rw [compiled.accessors_eq, Accessor.get?_table compiled.wellNamed]
    exact .computed declared
  rw [Item.set, model, member]

end Members

/-! ## Properties written one after the other -/

section Direct

variable {i : Item σ W}

@[simp]
theorem get?_setProperty_of_ne {name other : String} (ne : other ≠ name) (p : Property)
    (v : Value) : (i.setProperty name p v).properties.get? other = i.properties.get? other := by
  unfold setProperty
  dsimp only
  split
  · rfl
  · rw [Bag.get?_insert, if_neg ne]

/-- A property that is written has the new value, or had the same one before. -/
theorem get?_setProperty_self (i : Item σ W) (name : String) (p : Property) (v : Value) :
    (i.setProperty name p v).properties.get? name = some (p.type.coerce p none v) ∨
      i.setProperty name p v = i ∧
        sameOrMissing (i.properties.get? name) (some (p.type.coerce p none v)) = true := by
  unfold setProperty
  dsimp only
  split
  · next same => exact .inr ⟨rfl, same⟩
  · exact .inl (Bag.get?_insert_self _ _ _)

theorem agree_setProperty (i : Item σ W) (name : String) (p : Property) (v : Value) :
    Agree ((i.setProperty name p v).properties.get? name) (some (p.type.coerce p none v)) := by
  rcases i.get?_setProperty_self name p v with eq | ⟨eq, same⟩
  · exact .inl eq
  · rw [eq]
    exact .inr same

/-- A property that is written differs if the new value is not the same as the old one. -/
theorem differs_setProperty (i : Item σ W) (name : String) (p : Property) (v : Value) :
    i.Differs (i.setProperty name p v) name ↔
      sameOrMissing (i.properties.get? name) (some (p.type.coerce p none v)) = false := by
  unfold Differs
  rcases i.get?_setProperty_self name p v with eq | ⟨eq, same⟩
  · rw [eq]
  · rw [eq, same, sameOrMissing_self same]

theorem receives_setProperty {e : String × Option Value} {p : Property}
    (declared : i.model.schema.properties.get? e.1 = some p) :
    i.Receives [e] (i.setProperty e.1 p (e.2.getD .null)) := by
  have formed : i.model.schema.properties.formed e = some (p.type.coerce p none (e.2.getD .null)) :=
    by rw [Section.formed, declared, Option.map_some]
  refine ⟨setProperty_frame _ _ _ _, ?_, ?_, ?_, ?_⟩
  · intro name absent
    exact get?_setProperty_of_ne (by simpa using absent) p _
  · intro e' he
    obtain rfl := List.mem_singleton.1 he
    rw [formed]
    exact i.agree_setProperty _ p _
  · intro name
    rw [mem_changed_setProperty]
    simp only [List.mem_singleton, exists_eq_left]
    refine or_congr_right ?_
    constructor
    · rintro ⟨rfl, differs⟩
      exact ⟨rfl, by rwa [formed, ← differs_setProperty]⟩
    · rintro ⟨rfl, differs⟩
      exact ⟨rfl, by rwa [formed, ← differs_setProperty] at differs⟩
  · intro honest
    unfold setProperty
    dsimp only
    split
    · exact honest
    · exact i.changes.isHonest_mark _

/-- Edits are received one after the other, if each is one of another property. -/
theorem Receives.cons {e : String × Option Value} {edits : Edits} {j k : Item σ W}
    (head : i.Receives [e] j) (rest : j.Receives edits k) (fresh : e.1 ∉ edits.map (·.1)) :
    i.Receives (e :: edits) k := by
  have model : j.model = i.model := by rw [head.frame]; rfl
  have others {name : String} (ne : name ≠ e.1) :
      j.properties.get? name = i.properties.get? name := head.untouched name (by simpa using ne)
  refine ⟨?_, ?_, ?_, ?_, fun honest => rest.honest (head.honest honest)⟩
  · rw [rest.frame, head.frame]
    rfl
  · intro name absent
    rw [List.map_cons, List.mem_cons, not_or] at absent
    rw [rest.untouched name absent.2, others absent.1]
  · intro e' he
    rcases List.mem_cons.1 he with rfl | he
    · rw [rest.untouched _ fresh]
      exact head.touched _ (List.mem_singleton_self _)
    · rw [← model]
      exact rest.touched e' he
  · intro name
    rw [rest.recorded name, head.recorded name, or_assoc]
    refine or_congr_right ?_
    simp only [List.mem_cons, List.not_mem_nil, or_false, exists_eq_left, exists_eq_or_imp]
    refine or_congr_right (exists_congr fun e' => and_congr_right fun he => ?_)
    refine and_congr_right ?_
    rintro rfl
    -- The other edits see the value that there was at first.
    have ne : e'.1 ≠ e.1 := by
      intro same
      exact fresh (same ▸ List.mem_map_of_mem he)
    rw [others ne, model]

/-- Properties that are written one after the other receive their values. -/
theorem receives_setAll (compiled : m.Compiled keyBase) {edits : Edits}
    (nodup : (edits.map (·.1)).Nodup)
    (declared : ∀ e ∈ edits, e.1 ∈ m.schema.properties.names) (model : i.model = m) :
    ∃ j, i.setAll edits = .ok j ∧ i.Receives edits j := by
  induction edits generalizing i with
  | nil => exact ⟨i, rfl, rfl, fun _ _ => rfl, by simp, by simp, fun honest => honest⟩
  | cons e rest ih =>
    obtain ⟨fresh, nodup⟩ := List.nodup_cons.1 nodup
    obtain ⟨p, found⟩ := Section.mem_names.1 (declared e List.mem_cons_self)
    have head : i.Receives [e] (i.setProperty e.1 p (e.2.getD .null)) :=
      receives_setProperty (by rw [model, found])
    have kept : (i.setProperty e.1 p (e.2.getD .null)).model = m := by
      rw [head.frame]
      exact model
    obtain ⟨j, ran, receives⟩ :=
      ih nodup (fun e' he => declared e' (List.mem_cons_of_mem _ he)) kept
    refine ⟨j, ?_, head.cons receives fresh⟩
    rw [setAll, List.foldlM_cons, set_of_property compiled model found]
    exact ran

end Direct

/-! ## Properties written by the code of a computed property -/

/-- A declared property has a value that its type keeps, and that is the same as itself. -/
theorem IsCanonical.same_self {i : Item σ W} (h : i.IsCanonical m)
    (typed : m.schema.properties.Typed) {name : String} {p : Property}
    (declared : m.schema.properties.get? name = some p) :
    sameOrMissing (i.properties.get? name) (i.properties.get? name) = true := by
  obtain ⟨v, found, canonical⟩ := h.properties name p declared
  rw [found]
  exact canonical.same_self (typed name p declared)

/-- The whole bag is coerced, but what the code has not touched stays as it is. -/
theorem receives_setComputed {i : Item σ W} (coherent : m.Coherent keyBase)
    (canonical : i.IsCanonical m) (c : Computed) (v : Value) {edits : Edits}
    (declared : ∀ e ∈ edits, e.1 ∈ m.schema.properties.names)
    (code : i.properties.Edited (c.code.write i.properties v) edits) :
    i.Receives edits (i.setComputed c v) := by
  have coerced {name : String} {p : Property}
      (found : m.schema.properties.get? name = some p) :
      (i.setComputed c v).properties.get? name =
        some (p.type.coerce p none (((c.code.write i.properties v).get? name).getD .null)) := by
    unfold setComputed
    rw [canonical.model_eq, coherent.pipeline_eq]
    dsimp only
    rw [Pipeline.get?_coerce, found]
    rfl
  have undeclared {name : String} (found : m.schema.properties.get? name = none) :
      (i.setComputed c v).properties.get? name = (c.code.write i.properties v).get? name := by
    unfold setComputed
    rw [canonical.model_eq, coherent.pipeline_eq]
    dsimp only
    rw [Pipeline.get?_coerce, found]
  have untouched name (absent : name ∉ edits.map (·.1)) :
      (i.setComputed c v).properties.get? name = i.properties.get? name := by
    cases found : m.schema.properties.get? name with
    | none => rw [undeclared found, code.untouched name absent]
    | some p =>
      obtain ⟨w, kept, fixed⟩ := canonical.coerce_eq found
      rw [coerced found, code.untouched name absent, kept]
      exact congrArg some fixed
  have touched e (he : e ∈ edits) :
      (i.setComputed c v).properties.get? e.1 = m.schema.properties.formed e := by
    obtain ⟨p, found⟩ := Section.mem_names.1 (declared e he)
    rw [coerced found, Section.formed, found, code.touched e he, Option.map_some]
  refine ⟨rfl, untouched, ?_, ?_, fun honest => honest.markAll _⟩
  · intro e he
    rw [touched e he, canonical.model_eq]
    exact .refl _
  · intro name
    rw [mem_changed_setComputed, canonical.model_eq]
    refine or_congr_right ?_
    constructor
    · rintro ⟨listed, differs⟩
      by_cases edited : name ∈ edits.map (·.1)
      · obtain ⟨e, he, rfl⟩ := List.mem_map.1 edited
        rw [Differs, touched e he] at differs
        exact ⟨e, he, rfl, differs⟩
      · obtain ⟨p, found⟩ := Section.mem_names.1 listed
        rw [Differs, untouched name edited, canonical.same_self coherent.typed found] at differs
        exact absurd differs (by simp)
    · rintro ⟨e, he, rfl, differs⟩
      refine ⟨declared e he, ?_⟩
      rwa [Differs, touched e he]

/-! ## All moments -/

/-- An item is steady at every moment of its life. -/
theorem steady_of_mem_life (compiled : m.Compiled keyBase) (id : Option Uuid)
    (adapter : Option (Adapter W)) (policy : Option UnsavedPolicy)
    {ops : List (Operation × Session σ W)} {now : Moment σ W}
    (reached : now ∈ (create m id adapter policy).life ops) : now.item.Steady m := by
  have made : (create m id adapter policy).Steady m :=
    steady_create compiled.coherent id adapter policy
  have path := (create m id adapter policy).path_goesThrough ops
  rcases List.mem_cons.1 reached with rfl | later
  · exact made
  · exact (path.keeps (fun _ _ before next => before.next compiled.coherent next) made).1 now later

/-- At every moment of an item, a computed property is written whose code gives values to some
declared properties, removes some, and touches nothing else. That ends as if these properties were
written one after the other, in any order, `null` where the code removes a value: the items have the
same properties and the same recorded changes, and they differ in nothing else. Values are the same
if they are equal, or numbers that are: where the old value is one zero and the new one is the
other, the old one stays if the property is written itself. What the code has not touched keeps its
value and is not recorded. -/
theorem set_computed_distributes (compiled : m.Compiled keyBase) (id : Option Uuid)
    (adapter : Option (Adapter W)) (policy : Option UnsavedPolicy)
    (ops : List (Operation × Session σ W)) (now : Moment σ W)
    (reached : now ∈ (create m id adapter policy).life ops) (name : String) (c : Computed)
    (member : m.schema.computed.get? name = some c) (v : Value) (edits : Edits)
    (nodup : (edits.map (·.1)).Nodup) (declared : ∀ e ∈ edits, e.1 ∈ m.schema.properties.names)
    (code : now.item.properties.Edited (c.code.write now.item.properties v) edits) :
    ∃ a, now.item.set name v = .ok a ∧
      (∀ other, other ∉ edits.map (·.1) →
        a.properties.get? other = now.item.properties.get? other ∧
          (other ∈ a.changed.names ↔ other ∈ now.item.changed.names)) ∧
      ∀ order : Edits, order.Perm edits → ∃ b, now.item.setAll order = .ok b ∧
        (∀ other, Agree (a.properties.get? other) (b.properties.get? other)) ∧
        a = { b with properties := a.properties } := by
  have steady := steady_of_mem_life compiled id adapter policy reached
  have model := steady.canonical.model_eq
  have written := receives_setComputed compiled.coherent steady.canonical c v declared code
  refine ⟨_, set_of_computed compiled model member v, ?_, ?_⟩
  · intro other absent
    exact ⟨written.untouched other absent, written.unrecorded absent⟩
  · intro order perm
    have nodup : (order.map (·.1)).Nodup := (perm.map _).nodup_iff.2 nodup
    have declared : ∀ e ∈ order, e.1 ∈ m.schema.properties.names :=
      fun e he => declared e (perm.mem_iff.1 he)
    obtain ⟨b, ran, receives⟩ := receives_setAll compiled nodup declared model
    have same := receives.perm perm
    exact ⟨b, ran, written.agree same, written.eq_with_properties same steady.honest⟩

end Item

/-! An entry has a rank and a note. What is written into its line becomes the rank, and the note is
removed. -/

/-- The code of the line of an entry. -/
def entryLine : ComputedCode where
  read bag := bag.get? "rank"
  write bag v := (bag.insert "rank" v).erase "note"

def entryDraft : Draft Unit :=
  { properties := [("note", {}), ("rank", { typeName := "number" })]
    computed := [("line", { code := some entryLine })] }

def entryModel : Model Unit Memory :=
  (Model.compile cardContext 1 "Entry" entryDraft (.root cardContext) none).toOption.get
    (by decide +kernel)

theorem entryModel_compiled : entryModel.Compiled "models" :=
  .compile cardContext 1 "Entry" entryDraft none (.root cardContext) (Except.eq_ok_get _ _)

/-- A new entry gets a note. -/
def entryOperations : List (Operation × Session Unit Memory) :=
  [(.set "note" (.string "draft"), badgeSession)]

/-- The entry when it has its note. -/
def entryMoment : Moment Unit Memory :=
  ((Item.create entryModel none none none).life entryOperations).get ⟨1, by decide +kernel⟩

theorem edited_entryLine (bag : Properties) (v : Value) :
    bag.Edited (entryLine.write bag v) [("rank", some v), ("note", none)] := by
  constructor
  · intro e he
    rcases List.mem_cons.1 he with rfl | he
    · simp [entryLine, Bag.get?_erase]
    · obtain rfl := List.mem_singleton.1 he
      simp [entryLine, Bag.get?_erase]
  · intro name absent
    obtain ⟨rank, note⟩ : name ≠ "rank" ∧ name ≠ "note" := by simpa using absent
    simp [entryLine, Bag.get?_erase, Bag.get?_insert, rank, note]

/-- Writing the line of the entry is writing its rank, before or after its note. -/
theorem set_computed_distributes_entry :
    entryMoment.item.properties.get? "note" = some (.string "draft") ∧
      ∃ a, entryMoment.item.set "line" (.string "7") = .ok a ∧
        a.properties.get? "rank" = some (.number (.ofInt 7)) ∧
        a.properties.get? "note" = some .null ∧
        ∃ b, entryMoment.item.setAll [("note", none), ("rank", some (.string "7"))] = .ok b ∧
          (∀ other, Agree (a.properties.get? other) (b.properties.get? other)) ∧
          a = { b with properties := a.properties } := by
  have noted : entryMoment.item.properties.get? "note" = some (.string "draft") := by
    decide +kernel
  have ends : (entryMoment.item.set "line" (.string "7")).toOption.map
      (fun a => (a.properties.get? "rank", a.properties.get? "note")) =
        some (some (.number (.ofInt 7)), some .null) := by decide +kernel
  obtain ⟨a, set, -, direct⟩ := Item.set_computed_distributes entryModel_compiled none none none
    entryOperations entryMoment (List.get_mem _ _) "line" { code := entryLine } rfl (.string "7")
    [("rank", some (.string "7")), ("note", none)] (by decide) (by decide +kernel)
    (edited_entryLine _ _)
  rw [set] at ends
  obtain ⟨rank, note⟩ := Prod.mk.inj (Option.some.inj ends)
  exact ⟨noted, a, set, rank, note, direct _ (List.Perm.swap _ _ _)⟩

end EntityStore
