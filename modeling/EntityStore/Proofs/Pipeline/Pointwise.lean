import EntityStore.Proofs.Pipeline
import EntityStore.Proofs.ScalarType.Violations

set_option autoImplicit false

/-! # The order of declarations

A pipeline goes over the properties of a section in the order in which they are declared, and yet
treats each of them by itself. So the order does not matter for what becomes of a bag or a record,
and for what validation finds it matters only in which order the properties are reported on
(`Pipeline.pointwise`). -/

namespace EntityStore

/-- Of entries with different names, one at most has a given name. -/
theorem Entries.flatMap_named {α β : Type} (f : String × α → List β) {l : List (String × α)}
    (nodup : (l.map (·.1)).Nodup) (name : String) :
    l.flatMap (fun e => if e.1 = name then f e else []) =
      ((find? name l).map fun a => f (name, a)).getD [] := by
  induction l with
  | nil => rfl
  | cons e rest ih =>
    obtain ⟨he, hr⟩ := List.nodup_cons.1 nodup
    rw [List.flatMap_cons, ih hr]
    by_cases hn : e.1 = name
    · subst hn
      simp [find?, find?_eq_none_iff.2 he]
    · simp [find?, hn]

variable {sec other : Section Property}

/-- Sections that differ in the order of their declarations declare the same. -/
theorem Section.get?_perm (perm : sec.entries.Perm other.entries) (name : String) :
    sec.get? name = other.get? name :=
  Entries.find?_perm sec.nodup perm name

namespace Pipeline

theorem coerce_perm (perm : sec.entries.Perm other.entries) (defaults : DefaultSource)
    (bag : Properties) : (ofSection sec).coerce defaults bag =
      (ofSection other).coerce defaults bag := by
  refine Bag.ext_get? fun name => ?_
  rw [get?_coerce, get?_coerce, Section.get?_perm perm]

theorem serialize_perm (perm : sec.entries.Perm other.entries) (binary : Bool)
    (bag : Properties) : (ofSection sec).serialize binary bag =
      (ofSection other).serialize binary bag := by
  refine Bag.ext_get? fun name => ?_
  rw [get?_serialize, get?_serialize, Section.get?_perm perm]

theorem deserialize_perm (perm : sec.entries.Perm other.entries) (record : Record) :
    (ofSection sec).deserialize record = (ofSection other).deserialize record := by
  refine Bag.ext_get? fun name => ?_
  rw [get?_deserialize, get?_deserialize, Section.get?_perm perm]

/-! ## Validation -/

/-- What validation finds in one property. -/
def violationsOf (bag : Properties) (e : String × Property) : List Violation :=
  (e.2.type.violations e.2 ((bag.get? e.1).getD .null)).map fun c => ⟨e.1, c⟩

theorem violations_ofSection (sec : Section Property) (bag : Properties) :
    (ofSection sec).violations bag = sec.entries.flatMap (violationsOf bag) := by
  rw [violations, ofSection, List.flatMap_map]
  refine List.flatMap_congr fun e _ => ?_
  rw [violationsOf]

/-- It is what is reported on the property where nothing was found before. -/
theorem violationsOf_eq_report (bag : Properties) (e : String × Property) :
    violationsOf bag e = e.2.type.report e.1 e.2 ((bag.get? e.1).getD .null) [] :=
  (List.nil_append _).symm

theorem violations_perm (perm : sec.entries.Perm other.entries) (bag : Properties) :
    ((ofSection sec).violations bag).Perm ((ofSection other).violations bag) := by
  rw [violations_ofSection, violations_ofSection]
  exact List.Perm.flatMap_right (violationsOf bag) perm

theorem filter_violationsOf (bag : Properties) (e : String × Property) (name : String) :
    (violationsOf bag e).filter (fun v => v.property = name) =
      if e.1 = name then violationsOf bag e else [] := by
  unfold violationsOf
  by_cases eq : e.1 = name
  · simp [eq]
  · simp [eq]

/-- What validation finds in the whole section for one name is what it finds in its property. -/
theorem filter_violations (sec : Section Property) (bag : Properties) (name : String) :
    ((ofSection sec).violations bag).filter (fun v => v.property = name) =
      ((sec.get? name).map fun p => violationsOf bag (name, p)).getD [] := by
  rw [violations_ofSection, List.filter_flatMap]
  simp only [filter_violationsOf]
  exact Entries.flatMap_named (violationsOf bag) sec.nodup name

/-- **A pipeline treats each declared property by itself, in whatever order they are declared.** -/
theorem pointwise (perm : sec.entries.Perm other.entries) (defaults : DefaultSource)
    (bag : Properties) (record : Record) (binary : Bool) :
    (∀ name, ((ofSection sec).coerce defaults bag).get? name = match sec.get? name with
      | some p => some (p.type.coerce p (defaults name p) ((bag.get? name).getD .null))
      | none => bag.get? name) ∧
    (∀ found, (ofSection sec).report bag found = found ++ sec.entries.flatMap fun (name, p) =>
      p.type.report name p ((bag.get? name).getD .null) []) ∧
    ((ofSection sec).violations bag = sec.entries.flatMap fun (name, p) =>
      (p.type.violations p ((bag.get? name).getD .null)).map fun c => ⟨name, c⟩) ∧
    (∀ name, ((ofSection sec).serialize binary bag).get? name =
      (sec.get? name).map fun p => p.type.serialize binary ((bag.get? name).getD .null)) ∧
    (∀ name, ((ofSection sec).deserialize record).get? name = (sec.get? name).map fun p =>
      p.type.coerce p none (p.type.deserialize ((record.get? name).getD .null))) ∧
    (ofSection other).coerce defaults bag = (ofSection sec).coerce defaults bag ∧
    (ofSection other).serialize binary bag = (ofSection sec).serialize binary bag ∧
    (ofSection other).deserialize record = (ofSection sec).deserialize record ∧
    ((ofSection other).violations bag).Perm ((ofSection sec).violations bag) ∧
    ∀ name, ((ofSection other).violations bag).filter (fun v => v.property = name) =
      ((ofSection sec).violations bag).filter fun v => v.property = name := by
  refine ⟨fun name => get?_coerce sec name defaults bag, fun found => ?_,
    violations_ofSection sec bag, fun name => get?_serialize sec name binary bag,
    fun name => get?_deserialize sec name record, coerce_perm perm.symm defaults bag,
    serialize_perm perm.symm binary bag, deserialize_perm perm.symm record,
    violations_perm perm.symm bag, fun name => ?_⟩
  · rw [report_eq, violations_ofSection]
    exact congrArg (found ++ ·) (List.flatMap_congr fun e _ => violationsOf_eq_report bag e)
  · rw [filter_violations, filter_violations, Section.get?_perm perm]

/-- A lot of an auction, and the same lot with its properties declared the other way round. -/
def auctionLot : Section Property :=
  ⟨[("caption", { trim := true, required := true }),
    ("bid", { typeName := "integer", required := true, default := some (.integer 5) })], by decide⟩

def turnedLot : Section Property := ⟨auctionLot.entries.reverse, by decide⟩

theorem pointwise_turnedLot :
    auctionLot.entries.Perm turnedLot.entries ∧
    ((ofSection auctionLot).coerce declaredDefaults {}).get? "bid" = some (.integer 5) ∧
    (ofSection turnedLot).coerce declaredDefaults {} =
      (ofSection auctionLot).coerce declaredDefaults {} ∧
    ((ofSection turnedLot).violations {}).Perm ((ofSection auctionLot).violations {}) ∧
    (ofSection turnedLot).violations {} ≠ (ofSection auctionLot).violations {} := by
  have turned : auctionLot.entries.Perm turnedLot.entries := (List.reverse_perm _).symm
  obtain ⟨-, -, -, -, -, coerced, -, -, found, -⟩ :=
    pointwise turned declaredDefaults {} {} false
  exact ⟨turned, by decide +kernel, coerced, found, by decide +kernel⟩

end Pipeline

end EntityStore
