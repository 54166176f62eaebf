import EntityStore.Bag
import Mathlib.Data.List.Nodup

set_option autoImplicit false

/-! # What bags made from lists and parts of bags answer -/

namespace EntityStore

universe u v

variable {α : Type u} {β : Type v}

/-- Texts are listed in ascending order in one way only. -/
theorem List.eq_of_ascending {l m : List String} (hl : l.Pairwise (· < ·))
    (hm : m.Pairwise (· < ·)) (same : ∀ name, name ∈ l ↔ name ∈ m) : l = m := by
  have distinct {l : List String} (h : l.Pairwise (· < ·)) : l.Nodup :=
    List.Pairwise.imp (S := (· ≠ ·)) (fun lt eq => String.lt_irrefl _ (eq ▸ lt)) h
  refine List.Perm.eq_of_pairwise ?_ hl hm ?_
  · exact fun x y _ _ lt gt => absurd (String.lt_trans lt gt) (String.lt_irrefl x)
  · exact (List.perm_ext_iff_of_nodup (distinct hl) (distinct hm)).2 same

/-- Texts that occur once each are sorted in ascending order. -/
theorem List.ascending_mergeSort {l : List String} (distinct : l.Nodup) :
    (l.mergeSort fun a b => decide (a ≤ b)).Pairwise (· < ·) := by
  have sorted (le : String → String → Bool) (h : ∀ a b, le a b = true ↔ a ≤ b) :
      (l.mergeSort le).Pairwise fun a b => le a b = true :=
    List.pairwise_mergeSort
      (fun a b c ab bc => (h a c).2 (String.le_trans ((h a b).1 ab) ((h b c).1 bc)))
      (fun a b => by simpa [h] using String.le_total a b) l
  have apart := (List.mergeSort_perm l fun a b => decide (a ≤ b)).nodup_iff.2 distinct
  refine ((sorted _ fun _ _ => decide_eq_true_iff).and apart).imp fun {a b} h => ?_
  exact Classical.byContradiction fun notLess =>
    h.2 (String.le_antisymm (of_decide_eq_true h.1) (String.not_lt.1 notLess))

namespace Entries

theorem find?_map (f : String × α → β) (name : String) (l : List (String × α)) :
    find? name (l.map fun e => (e.1, f e)) = (find? name l).map fun a => f (name, a) := by
  induction l with
  | nil => rfl
  | cons e rest ih =>
    by_cases h : e.1 = name
    · subst h
      simp [find?]
    · simp [find?, h, ih]

theorem find?_filter (keep : String → α → Bool) (name : String) {l : List (String × α)}
    (h : (l.map (·.1)).Nodup) :
    find? name (l.filter fun e => keep e.1 e.2) = (find? name l).filter (keep name) := by
  induction l with
  | nil => rfl
  | cons e rest ih =>
    obtain ⟨he, hr⟩ := List.nodup_cons.1 h
    by_cases hn : e.1 = name
    · subst hn
      -- The name does not occur again, so nothing else can be found.
      have absent : find? e.1 rest = none := find?_eq_none_iff.2 he
      by_cases hk : keep e.1 e.2
      · simp [find?, hk, Option.filter]
      · simp [find?, hk, ih hr, absent, Option.filter]
    · by_cases hk : keep e.1 e.2
      · simp [find?, hk, hn, ih hr]
      · simp [find?, hk, hn, ih hr]

theorem mem_of_find? {name : String} {a : α} {l : List (String × α)} (h : find? name l = some a) :
    (name, a) ∈ l := by
  induction l with
  | nil => exact absurd h (by simp [find?])
  | cons e rest ih =>
    by_cases hn : e.1 = name
    · obtain rfl : e.2 = a := by simpa [find?, hn] using h
      exact hn ▸ List.mem_cons_self
    · exact List.mem_cons_of_mem _ (ih (by simpa [find?, hn] using h))

theorem find?_of_mem {name : String} {a : α} {l : List (String × α)}
    (nodup : (l.map (·.1)).Nodup) (h : (name, a) ∈ l) : find? name l = some a := by
  induction l with
  | nil => exact absurd h (by simp)
  | cons e rest ih =>
    obtain ⟨he, hr⟩ := List.nodup_cons.1 nodup
    rcases List.mem_cons.1 h with rfl | h
    · simp [find?]
    · have other : e.1 ≠ name := fun eq => he (List.mem_map.2 ⟨(name, a), h, eq.symm⟩)
      simpa [find?, other] using ih hr h

/-- Where a name is looked up does not depend on the order of the entries. -/
theorem find?_perm {l m : List (String × α)} (nodup : (l.map (·.1)).Nodup) (perm : l.Perm m)
    (name : String) : find? name l = find? name m := by
  have nodup' : (m.map (·.1)).Nodup := (perm.map (·.1)).nodup_iff.1 nodup
  refine Option.ext fun a => ⟨fun found => ?_, fun found => ?_⟩
  · exact find?_of_mem nodup' (perm.mem_iff.1 (mem_of_find? found))
  · exact find?_of_mem nodup (perm.mem_iff.2 (mem_of_find? found))

end Entries

namespace Bag

theorem names_nodup (bag : Bag α) : bag.names.Nodup :=
  List.Pairwise.imp (S := (· ≠ ·)) (fun h eq => String.lt_irrefl _ (eq ▸ h)) bag.ascending

theorem ascending_names (bag : Bag α) : bag.names.Pairwise (· < ·) := bag.ascending

@[grind =]
theorem mem_names {bag : Bag α} {name : String} :
    name ∈ bag.names ↔ ∃ a, bag.get? name = some a := by
  have absent := @Entries.find?_eq_none_iff α name bag.entries
  unfold names get?
  cases h : Entries.find? name bag.entries with
  | none => simpa using absent.1 h
  | some a => simpa using mt absent.2 (by simp [h])

@[simp]
theorem not_mem_names {bag : Bag α} {name : String} :
    name ∉ bag.names ↔ bag.get? name = none := by
  rw [mem_names]
  cases bag.get? name <;> simp

@[simp, grind =]
theorem get?_filter (bag : Bag α) (keep : String → α → Bool) (name : String) :
    (bag.filter keep).get? name = (bag.get? name).filter (keep name) :=
  Entries.find?_filter keep name bag.names_nodup

theorem get?_insertAll {l : List (String × α)} (nodup : (l.map (·.1)).Nodup) (bag : Bag α)
    (name : String) : (bag.insertAll l).get? name = (Entries.find? name l).or (bag.get? name) := by
  induction l generalizing bag with
  | nil => rfl
  | cons e rest ih =>
    obtain ⟨he, hr⟩ := List.nodup_cons.1 nodup
    have step : bag.insertAll (e :: rest) = (bag.insert e.1 e.2).insertAll rest := rfl
    rw [step, ih hr, get?_insert]
    by_cases hn : e.1 = name
    · subst hn
      simp [Entries.find?, Entries.find?_eq_none_iff.2 he]
    · simp [Entries.find?, hn, Ne.symm hn]

theorem get?_ofList {l : List (String × α)} (nodup : (l.map (·.1)).Nodup) (name : String) :
    (ofList l).get? name = Entries.find? name l := by
  rw [ofList, get?_insertAll nodup]
  simp

@[simp]
theorem ofList_entries (bag : Bag α) : ofList bag.entries = bag :=
  ext_get? fun name => get?_ofList bag.names_nodup name

theorem mem_of_get?_insertAll {l : List (String × α)} {bag : Bag α} {name : String} {a : α}
    (h : (bag.insertAll l).get? name = some a) : (name, a) ∈ l ∨ bag.get? name = some a := by
  induction l generalizing bag with
  | nil => exact .inr h
  | cons e rest ih =>
    have step : bag.insertAll (e :: rest) = (bag.insert e.1 e.2).insertAll rest := rfl
    rw [step] at h
    rcases ih h with h | h
    · exact .inl (List.mem_cons_of_mem _ h)
    · rw [get?_insert] at h
      split at h
      · next eq =>
        obtain rfl := Option.some.inj h
        exact .inl (eq ▸ List.mem_cons_self)
      · exact .inr h

theorem mem_of_get?_ofList {l : List (String × α)} {name : String} {a : α}
    (h : (ofList l).get? name = some a) : (name, a) ∈ l := by
  rcases mem_of_get?_insertAll h with h | h
  · exact h
  · exact absurd h (by simp)

end Bag

end EntityStore
