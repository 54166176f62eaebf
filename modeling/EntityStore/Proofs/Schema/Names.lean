import EntityStore.Proofs.Schema.Typed
import Mathlib.Tactic.SplitIfs

set_option autoImplicit false

/-! # The namespace of members

Properties, computed properties and methods share one namespace. In a schema that is well named
(`Schema.WellNamed`) each name belongs to members of one kind, and is one that members may have.
What a draft declares in normal form is well named, and it fits the schema of the base
(`Draft.fits_normalize`): where it declares an inherited name again, it does so with a member of the
same kind. So the merged schema is well named if that of the base is (`WellNamed.merge`). -/

namespace EntityStore

variable {σ : Type}

theorem Section.contains_merge {α : Type} (base own : Section α) (name : String) :
    (base.merge own).contains name = (own.contains name || base.contains name) := by
  unfold contains
  rw [get?_merge, Option.isSome_or]

theorem Section.contains_insert {α : Type} (s : Section α) (name other : String) (a : α) :
    (s.insert name a).contains other = (decide (other = name) || s.contains other) := by
  unfold contains
  rw [get?_insert]
  split <;> simp [*]

theorem Names.contains_add (names : Names) (name other : String) :
    (names.add name).contains other = (decide (other = name) || names.contains other) := by
  unfold add Bag.contains
  rw [Bag.get?_insert]
  split <;> simp [*]

/-! ## Names that members may have -/

/-- A name that a member may have. -/
structure IsMemberName (name : String) : Prop where
  /-- It is an identifier. -/
  identifier : isIdentifier name = true
  /-- It is not reserved. -/
  free : name ∉ reservedNames
  /-- It is neither the name nor the alias of an event. -/
  plain : LifecycleEvent.ofName? name = none

/-- A name without fault is one that members may have. It is new, and the base gives it to no member
of another kind. -/
theorem nameFault?_eq_none {base : Schema σ} {seen : Names} {kind : MemberKind} {name : String}
    (h : nameFault? base seen kind name = none) :
    IsMemberName name ∧ seen.contains name = false ∧
      (base.kindOf? name = none ∨ base.kindOf? name = some kind) := by
  unfold nameFault? at h
  split at h
  · exact absurd h (by simp)
  split at h
  · exact absurd h (by simp)
  next identifier =>
  split at h
  · exact absurd h (by simp)
  next free =>
  split at h
  · exact absurd h (by simp)
  next plain =>
  split at h
  · exact absurd h (by simp)
  next fresh =>
  refine ⟨⟨by simpa using identifier, by simpa using free, by simpa using plain⟩,
    by simpa using fresh, ?_⟩
  split at h
  · next other known =>
    by_cases same : other = kind
    · exact .inr (same ▸ known)
    · simp [same] at h
  · next unknown => exact .inl unknown

/-! ## Schemas that are well named -/

namespace Schema

/-- Whether a member of a kind has a name. -/
def declares (s : Schema σ) : MemberKind → String → Bool
  | .property, name => s.properties.contains name
  | .computed, name => s.computed.contains name
  | .method, name => s.methods.contains name

/-- No name is shared between kinds of members, and members have names that they may have. -/
structure WellNamed (s : Schema σ) : Prop where
  /-- A name belongs to members of one kind. -/
  single : ∀ kind other name, s.declares kind name = true → s.declares other name = true →
    kind = other
  /-- It is one that members may have. -/
  plain : ∀ kind name, s.declares kind name = true → IsMemberName name

/-- A schema that is well named declares the inherited names among its own for members of the same
kind. -/
structure Fits (base own : Schema σ) : Prop extends own.WellNamed where
  /-- The base does not give the name to a member of another kind. -/
  inherited : ∀ kind name, own.declares kind name = true →
    base.kindOf? name = none ∨ base.kindOf? name = some kind

theorem declares_empty (kind : MemberKind) (name : String) :
    ({} : Schema σ).declares kind name = false := by
  cases kind <;> simp [declares, Section.contains]

theorem wellNamed_empty : ({} : Schema σ).WellNamed where
  single kind other name h := by simp [declares_empty] at h
  plain kind name h := by simp [declares_empty] at h

theorem fits_empty (base : Schema σ) : base.Fits {} where
  toWellNamed := wellNamed_empty
  inherited kind name h := by simp [declares_empty] at h

theorem declares_merge (base own : Schema σ) (kind : MemberKind) (name : String) :
    (base.merge own).declares kind name = (own.declares kind name || base.declares kind name) := by
  cases kind <;> exact Section.contains_merge _ _ _

/-- A name that a schema declares has a kind there. -/
theorem kindOf?_ne_none {s : Schema σ} {kind : MemberKind} {name : String}
    (h : s.declares kind name = true) : s.kindOf? name ≠ none := by
  intro unknown
  unfold kindOf? at unknown
  split_ifs at unknown with property computed method
  cases kind with
  | property => exact property h
  | computed => exact computed h
  | method => exact method h

/-- The kind that a name has is one of which there is a member. -/
theorem declares_of_kindOf? {s : Schema σ} {kind : MemberKind} {name : String}
    (h : s.kindOf? name = some kind) : s.declares kind name = true := by
  unfold kindOf? at h
  split_ifs at h with property computed method
  · obtain rfl := Option.some.inj h
    exact property
  · obtain rfl := Option.some.inj h
    exact computed
  · obtain rfl := Option.some.inj h
    exact method

/-- A name that a base without shared names declares, a schema that fits it declares for members of
the same kind. -/
theorem Fits.kind_eq {base own : Schema σ} (h : base.Fits own) (hb : base.WellNamed)
    {kind other : MemberKind} {name : String} (inherited : base.declares kind name = true)
    (declared : own.declares other name = true) : kind = other := by
  rcases h.inherited other name declared with unknown | known
  · exact absurd unknown (kindOf?_ne_none inherited)
  · exact hb.single kind other name inherited (declares_of_kindOf? known)

/-- Merging keeps names apart, if the schema that is merged over the base fits it. -/
theorem WellNamed.merge {base own : Schema σ} (hb : base.WellNamed) (h : base.Fits own) :
    (base.merge own).WellNamed where
  single kind other name h₁ h₂ := by
    rw [declares_merge, Bool.or_eq_true] at h₁ h₂
    rcases h₁ with own₁ | base₁ <;> rcases h₂ with own₂ | base₂
    · exact h.single kind other name own₁ own₂
    · exact (h.kind_eq hb base₂ own₁).symm
    · exact h.kind_eq hb base₁ own₂
    · exact hb.single kind other name base₁ base₂
  plain kind name hn := by
    rw [declares_merge, Bool.or_eq_true] at hn
    rcases hn with own | base
    · exact h.plain kind name own
    · exact hb.plain kind name base

end Schema

/-! ## Drafts -/

namespace Normalizing

/-- The schema so far fits that of the base, and its names have been taken. -/
structure Fits (base : Schema σ) (n : Normalizing σ) : Prop where
  /-- The schema fits. -/
  schema : base.Fits n.schema
  /-- Names of members have been seen. -/
  seen : ∀ kind name, n.schema.declares kind name = true → n.seen.contains name = true

variable {base : Schema σ} {n : Normalizing σ}

theorem Fits.report (h : n.Fits base) (problems : List Problem) : (n.report problems).Fits base :=
  ⟨h.schema, h.seen⟩

/-- A name is taken for one member at most: `declare` adds no other one. -/
theorem Fits.takeName (h : n.Fits base) (kind : MemberKind) (name : String)
    {declare : Normalizing σ → Normalizing σ} (seen : ∀ m, (declare m).seen = m.seen)
    (adds : ∀ m k other, (declare m).schema.declares k other = true →
      k = kind ∧ other = name ∨ m.schema.declares k other = true) :
    (n.takeName base kind name declare).Fits base := by
  have taken : ∀ other, n.seen.contains other = true → (n.seen.add name).contains other = true := by
    intro other known
    simp [Names.contains_add, known]
  unfold Normalizing.takeName
  dsimp only
  split
  · exact ⟨h.schema, fun k other declared => taken other (h.seen k other declared)⟩
  next fine =>
  obtain ⟨allowed, fresh, fits⟩ := nameFault?_eq_none fine
  -- Whatever was declared before has another name.
  have differs : ∀ k, n.schema.declares k name = false := by
    intro k
    rw [Bool.eq_false_iff]
    intro declared
    simp [h.seen k name declared] at fresh
  refine ⟨⟨⟨?_, ?_⟩, ?_⟩, ?_⟩
  · intro k k' other h₁ h₂
    rcases adds _ _ _ h₁ with ⟨rfl, rfl⟩ | old₁ <;> rcases adds _ _ _ h₂ with ⟨rfl, same⟩ | old₂
    · rfl
    · exact absurd old₂ (by simp [differs])
    · exact absurd (same ▸ old₁) (by simp [differs])
    · exact h.schema.single k k' other old₁ old₂
  · intro k other declared
    rcases adds _ _ _ declared with ⟨rfl, rfl⟩ | old
    · exact allowed
    · exact h.schema.plain k other old
  · intro k other declared
    rcases adds _ _ _ declared with ⟨rfl, rfl⟩ | old
    · exact fits
    · exact h.schema.inherited k other old
  · intro k other declared
    rw [seen]
    rcases adds _ _ _ declared with ⟨rfl, rfl⟩ | old
    · simp [Names.contains_add]
    · exact taken other (h.seen k other old)

theorem Fits.addProperty [Pattern.Reader] (h : n.Fits base) (e : String × Property) :
    (addProperty base n e).Fits base := by
  unfold Normalizing.addProperty
  dsimp only
  split
  · exact h.report _
  · refine (h.report _).takeName .property e.1 (fun _ => rfl) fun m k other declared => ?_
    cases k with
    | property => simpa [Schema.declares, Section.contains_insert] using declared
    | computed => exact .inr declared
    | method => exact .inr declared

theorem Fits.addComputed (h : n.Fits base) (e : String × ComputedDraft) :
    (addComputed base n e).Fits base := by
  unfold Normalizing.addComputed
  dsimp only
  refine (h.report _).takeName .computed _ (fun _ => rfl) fun m k other declared => ?_
  cases k with
  | property => exact .inr declared
  | computed => simpa [Schema.declares, Section.contains_insert] using declared
  | method => exact .inr declared

theorem Fits.addMethod (h : n.Fits base) (e : String × Option (Method σ)) :
    (addMethod base n e).Fits base := by
  refine h.takeName .method e.1 (fun m => by split <;> rfl) fun m k other declared => ?_
  split at declared
  · cases k with
    | property => exact .inr declared
    | computed => exact .inr declared
    | method => simpa [Schema.declares, Section.contains_insert] using declared
  · exact .inr declared

/-- Members are those of the three sections, so other declarations do no harm. -/
theorem Fits.of_declares_eq (h : n.Fits base) {m : Normalizing σ} (seen : m.seen = n.seen)
    (same : m.schema.declares = n.schema.declares) : m.Fits base := by
  refine ⟨⟨⟨?_, ?_⟩, ?_⟩, ?_⟩ <;> rw [same]
  · exact h.schema.single
  · exact h.schema.plain
  · exact h.schema.inherited
  · rw [seen]
    exact h.seen

theorem Fits.addHook (h : n.Fits base) (e : String × Option (Hook σ)) :
    (addHook n e).Fits base := by
  unfold Normalizing.addHook
  split
  · exact h.report _
  · exact h.report _
  · exact h.of_declares_eq rfl (by funext k name; cases k <;> rfl)

theorem Fits.addOption (h : n.Fits base) (e : String × Json) : (addOption n e).Fits base := by
  unfold Normalizing.addOption
  dsimp only
  split
  · split
    · exact h
    · split
      · exact h.of_declares_eq rfl (by funext k name; cases k <;> rfl)
      · exact h.report _
    · exact h.report _
  · exact h.of_declares_eq rfl (by funext k name; cases k <;> rfl)

end Normalizing

/-- What a draft declares in normal form fits the schema of the base. -/
theorem Draft.fits_normalize [Pattern.Reader] (d : Draft σ) (model : String) (base : Schema σ)
    (isDerived : Bool) :
    base.Fits (d.normalize model base isDerived).1 := by
  have start (problems : List Problem) : Normalizing.Fits base { problems } := by
    refine ⟨base.fits_empty, fun kind name h => ?_⟩
    simp [Schema.declares_empty] at h
  unfold Draft.normalize
  dsimp only
  suffices all : Normalizing.Fits base (d.options.foldl Normalizing.addOption _) from all.schema
  -- One section after the other, the last one first.
  refine foldl_keeps (P := Normalizing.Fits base) (fun _ e h => h.addOption e) d.options ?_
  refine foldl_keeps (P := Normalizing.Fits base) (fun _ e h => h.addHook e) d.hooks ?_
  refine foldl_keeps (P := Normalizing.Fits base) (fun _ e h => h.addMethod e) d.methods ?_
  refine foldl_keeps (P := Normalizing.Fits base) (fun _ e h => h.addComputed e) d.computed ?_
  exact foldl_keeps (P := Normalizing.Fits base) (fun _ e h => h.addProperty e) d.properties
    (start _)

end EntityStore
