import EntityStore.Proofs.Pipeline
import EntityStore.Schema

set_option autoImplicit false

/-! # Merging schemas

A section is what it answers for each name, and the order of its names (`Section.ext_names`).
Merging keeps the names of the base in their order and adds the new ones behind them
(`Section.names_merge`); of two declarations of a name the later one counts
(`Section.get?_merge`). So it does not matter in which order several schemas are merged
(`Schema.merge_assoc`), and the empty schema adds nothing (`Schema.merge_empty`,
`Schema.empty_merge`). -/

namespace EntityStore

variable {α σ : Type}

/-! ## Lists of entries -/

/-- Entries with the same names in the same order that answer every name alike are equal. -/
theorem Entries.eq_of_names_eq {l m : List (String × α)} (nodup : (l.map (·.1)).Nodup)
    (names : l.map (·.1) = m.map (·.1)) (same : ∀ name, find? name l = find? name m) : l = m := by
  induction l generalizing m with
  | nil => exact (List.map_eq_nil_iff.1 names.symm).symm
  | cons e l ih =>
    cases m with
    | nil => exact absurd names (by simp)
    | cons f m =>
      simp only [List.map_cons, List.cons.injEq] at names nodup
      obtain ⟨head, tail⟩ := names
      obtain ⟨fresh, nodup⟩ := List.nodup_cons.1 nodup
      have value : e.2 = f.2 := by simpa [find?, head] using same e.1
      have rest : l = m := by
        refine ih nodup tail fun name => ?_
        by_cases hn : e.1 = name
        · -- The name of the first entry does not occur again.
          rw [find?_eq_none_iff.2 (hn ▸ fresh), find?_eq_none_iff.2 (hn ▸ tail ▸ fresh)]
        · simpa [find?, hn, head ▸ hn] using same name
      rw [Prod.ext head value, rest]

/-! ## Sections -/

namespace Section

theorem ext_names {s t : Section α} (names : s.names = t.names)
    (same : ∀ name, s.get? name = t.get? name) : s = t := by
  have entries : s.entries = t.entries := Entries.eq_of_names_eq s.nodup names same
  cases s
  cases t
  simp_all

theorem names_declareAll (l : List (String × α)) (base : Section α) (nodup : (l.map (·.1)).Nodup) :
    (l.foldl (fun s e => s.insert e.1 e.2) base).names =
      base.names ++ (l.map (·.1)).filter fun name => name ∉ base.names := by
  induction l generalizing base with
  | nil => simp
  | cons e rest ih =>
    obtain ⟨fresh, nodup⟩ := List.nodup_cons.1 nodup
    rw [List.foldl_cons, ih _ nodup, names_insert]
    by_cases known : e.1 ∈ base.names
    · simp [known]
    · -- The names behind this one are compared with it, too, and differ from it.
      have rest_eq : ((rest.map (·.1)).filter fun name => name ∉ base.names ++ [e.1]) =
          (rest.map (·.1)).filter fun name => name ∉ base.names := by
        refine List.filter_congr fun name hn => ?_
        have other : name ≠ e.1 := by
          rintro rfl
          exact fresh hn
        simp [other]
      rw [if_neg known, rest_eq]
      simp [known]

/-- Merging adds the names that are new behind the others. -/
@[simp]
theorem names_merge (base own : Section α) :
    (base.merge own).names = base.names ++ own.names.filter fun name => name ∉ base.names :=
  names_declareAll own.entries base own.nodup

@[simp]
theorem merge_empty (s : Section α) : s.merge empty = s := rfl

@[simp]
theorem empty_merge (s : Section α) : empty.merge s = s := by
  refine ext_names ?_ fun name => ?_
  · rw [names_merge]
    simp [names, empty]
  · simp

theorem merge_assoc (a b c : Section α) : (a.merge b).merge c = a.merge (b.merge c) := by
  refine ext_names ?_ fun name => ?_
  · simp only [names_merge, List.filter_append, List.filter_filter, List.append_assoc]
    -- A name of the last section is new if neither of the others has it.
    congr 2
    refine List.filter_congr fun name _ => ?_
    by_cases ha : name ∈ a.names <;> by_cases hb : name ∈ b.names <;> simp [ha, hb]
  · simp [Option.or_assoc]

end Section

/-! ## Options -/

namespace Options

@[simp]
theorem get?_merge (base own : Options) (name : String) :
    (base.merge own).extra.get? name = (own.extra.get? name).or (base.extra.get? name) :=
  Bag.get?_insertAll own.extra.names_nodup base.extra name

@[simp]
theorem onUnsaved_merge (base own : Options) :
    (base.merge own).onUnsaved = own.onUnsaved.or base.onUnsaved := by
  unfold merge
  rw [Option.orElse_eq_orElse, Option.orElse_eq_or]

theorem ext_get? {a b : Options} (onUnsaved : a.onUnsaved = b.onUnsaved)
    (extra : ∀ name, a.extra.get? name = b.extra.get? name) : a = b := by
  cases a
  cases b
  simp only [mk.injEq]
  exact ⟨onUnsaved, Bag.ext_get? extra⟩

theorem merge_assoc (a b c : Options) : (a.merge b).merge c = a.merge (b.merge c) := by
  refine ext_get? ?_ fun name => ?_
  · simp [Option.or_assoc]
  · simp [Option.or_assoc]

@[simp]
theorem empty_merge (o : Options) : ({} : Options).merge o = o := by
  refine ext_get? ?_ fun name => ?_
  · simp
  · simp

@[simp]
theorem merge_empty (o : Options) : o.merge {} = o := by
  refine ext_get? ?_ fun name => ?_
  · simp
  · simp

end Options

/-! ## Schemas -/

namespace Schema

@[simp]
theorem hooks_merge (base own : Schema σ) (e : LifecycleEvent) :
    (base.merge own).hooks e = (own.hooks e).or (base.hooks e) := by
  show (own.hooks e <|> base.hooks e) = _
  rw [Option.orElse_eq_orElse, Option.orElse_eq_or]

/-- Schemas with the same sections, the same code for events and the same options are equal. -/
theorem ext_sections {a b : Schema σ} (properties : a.properties = b.properties)
    (computed : a.computed = b.computed) (methods : a.methods = b.methods)
    (hooks : ∀ e, a.hooks e = b.hooks e) (options : a.options = b.options) : a = b := by
  cases a
  cases b
  simp only [mk.injEq]
  exact ⟨properties, computed, methods, funext hooks, options⟩

theorem merge_assoc (a b c : Schema σ) : (a.merge b).merge c = a.merge (b.merge c) := by
  refine ext_sections ?_ ?_ ?_ (fun e => ?_) ?_
  · exact Section.merge_assoc a.properties b.properties c.properties
  · exact Section.merge_assoc a.computed b.computed c.computed
  · exact Section.merge_assoc a.methods b.methods c.methods
  · simp [Option.or_assoc]
  · exact Options.merge_assoc a.options b.options c.options

@[simp]
theorem empty_merge (s : Schema σ) : ({} : Schema σ).merge s = s := by
  refine ext_sections ?_ ?_ ?_ (fun e => ?_) ?_
  · exact Section.empty_merge s.properties
  · exact Section.empty_merge s.computed
  · exact Section.empty_merge s.methods
  · simp
  · exact Options.empty_merge s.options

@[simp]
theorem merge_empty (s : Schema σ) : s.merge {} = s := by
  refine ext_sections ?_ ?_ ?_ (fun e => ?_) ?_
  · exact Section.merge_empty s.properties
  · exact Section.merge_empty s.computed
  · exact Section.merge_empty s.methods
  · simp
  · exact Options.merge_empty s.options

end Schema

end EntityStore
