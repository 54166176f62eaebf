set_option autoImplicit false

/-! # Bags: values by name, kept in the order of the names

A `Bag α` holds at most one value under each name. Its entries are listed by ascending name, and
the type carries the proof, so two bags that answer every name alike are the same bag
(`Bag.ext_get?`). Whatever order values were put in, a bag is written and compared the same way.

The view of every operation is `get?`: what the bag answers for a name. -/

namespace EntityStore

universe u v

/-! ## Entry lists -/

namespace Entries

variable {α : Type u}

/-- Names rise from entry to entry. -/
def Ascending (l : List (String × α)) : Prop :=
  (l.map (·.1)).Pairwise (· < ·)

/-- Look a name up. -/
def find? (name : String) : List (String × α) → Option α
  | [] => none
  | (n, a) :: rest => if n = name then some a else find? name rest

/-- Put a value under a name, before the first larger name. -/
def put (name : String) (a : α) : List (String × α) → List (String × α)
  | [] => [(name, a)]
  | (n, b) :: rest =>
    if name < n then (name, a) :: (n, b) :: rest
    else if name = n then (name, a) :: rest
    else (n, b) :: put name a rest

/-- Drop the entry of a name. -/
def drop (name : String) (l : List (String × α)) : List (String × α) :=
  l.filter fun e => e.1 != name

theorem ascending_cons {e : String × α} {l : List (String × α)} :
    Ascending (e :: l) ↔ (∀ x ∈ l, e.1 < x.1) ∧ Ascending l := by
  simp [Ascending]

theorem mem_put {name : String} {a : α} {l : List (String × α)} {e : String × α}
    (h : e ∈ put name a l) : e = (name, a) ∨ e ∈ l := by
  induction l with
  | nil => simpa [put] using h
  | cons x rest ih =>
    unfold put at h
    split at h
    · simpa using h
    · split at h
      · rcases List.mem_cons.1 h with h | h
        · exact .inl h
        · exact .inr (List.mem_cons_of_mem _ h)
      · rcases List.mem_cons.1 h with h | h
        · exact .inr (h ▸ List.mem_cons_self)
        · exact (ih h).imp_right (List.mem_cons_of_mem _)

theorem ascending_put (name : String) (a : α) {l : List (String × α)} (h : Ascending l) :
    Ascending (put name a l) := by
  induction l with
  | nil => simp [put, Ascending]
  | cons x rest ih =>
    obtain ⟨hx, hr⟩ := ascending_cons.1 h
    unfold put
    split
    · rename_i hlt
      refine ascending_cons.2 ⟨fun y hy => ?_, h⟩
      rcases List.mem_cons.1 hy with rfl | hy
      · exact hlt
      · exact String.lt_trans hlt (hx y hy)
    · split
      · rename_i heq
        exact ascending_cons.2 ⟨fun y hy => heq ▸ hx y hy, hr⟩
      · rename_i hlt hne
        refine ascending_cons.2 ⟨fun y hy => ?_, ih hr⟩
        rcases mem_put hy with rfl | hy
        · have hle : x.1 ≤ name := String.not_lt.1 hlt
          exact Classical.byContradiction fun hn =>
            hne (String.le_antisymm (String.not_lt.1 hn) hle)
        · exact hx y hy

theorem ascending_drop (name : String) {l : List (String × α)} (h : Ascending l) :
    Ascending (drop name l) :=
  List.Pairwise.sublist (List.Sublist.map _ List.filter_sublist) h

theorem find?_put (name other : String) (a : α) (l : List (String × α)) :
    find? other (put name a l) = if other = name then some a else find? other l := by
  induction l with
  | nil => simp [put, find?, eq_comm]
  | cons x rest ih =>
    unfold put
    split
    · simp [find?, eq_comm]
    · split
      · rename_i heq
        subst heq
        by_cases h : other = x.1
        · subst h; simp [find?]
        · simp [find?, h, Ne.symm h]
      · rename_i hne
        by_cases h : x.1 = other
        · subst h; simp [find?, Ne.symm hne]
        · simp [find?, h, ih]

theorem find?_drop (name other : String) (l : List (String × α)) :
    find? other (drop name l) = if other = name then none else find? other l := by
  induction l with
  | nil => simp [drop, find?]
  | cons x rest ih =>
    unfold drop at ih ⊢
    by_cases hx : x.1 = name
    · subst hx
      by_cases h : other = x.1
      · subst h; simpa using ih
      · simp [find?, h, Ne.symm h, ih]
    · by_cases h : x.1 = other
      · subst h; simp [hx, find?]
      · simp [hx, find?, h, ih]

theorem find?_eq_none_of_lt {name : String} {l : List (String × α)}
    (h : ∀ x ∈ l, name < x.1) : find? name l = none := by
  induction l with
  | nil => rfl
  | cons x rest ih =>
    have hx := h x List.mem_cons_self
    have hne : x.1 ≠ name := fun e => String.lt_irrefl name (e ▸ hx)
    simp only [find?, hne, if_false]
    exact ih fun y hy => h y (List.mem_cons_of_mem _ hy)

theorem find?_eq_none_iff {name : String} {l : List (String × α)} :
    find? name l = none ↔ name ∉ l.map (·.1) := by
  induction l with
  | nil => simp [find?]
  | cons x rest ih =>
    by_cases h : x.1 = name
    · simp [find?, h]
    · simp only [find?, h, if_false, ih, List.map_cons, List.mem_cons, Ne.symm h, false_or]

/-- Ascending lists that answer every name alike are equal. -/
theorem eq_of_find?_eq {l m : List (String × α)} (hl : Ascending l) (hm : Ascending m)
    (h : ∀ name, find? name l = find? name m) : l = m := by
  induction l generalizing m with
  | nil =>
    cases m with
    | nil => rfl
    | cons y _ => simpa [find?] using h y.1
  | cons x l ih =>
    cases m with
    | nil => simpa [find?] using h x.1
    | cons y m =>
      obtain ⟨hx, tail_x⟩ := ascending_cons.1 hl
      obtain ⟨hy, tail_y⟩ := ascending_cons.1 hm
      have key : x.1 = y.1 := by
        have h1 := h x.1
        have h2 := h y.1
        by_cases hxy : x.1 = y.1
        · exact hxy
        · exfalso
          by_cases hlt : x.1 < y.1
          · rw [find?_eq_none_of_lt (l := y :: m) (fun z hz => ?_)] at h1
            · simp [find?] at h1
            · rcases List.mem_cons.1 hz with rfl | hz
              · exact hlt
              · exact String.lt_trans hlt (hy z hz)
          · have hgt : y.1 < x.1 := Classical.byContradiction fun hn =>
              hxy (String.le_antisymm (String.not_lt.1 hn) (String.not_lt.1 hlt))
            rw [find?_eq_none_of_lt (l := x :: l) (fun z hz => ?_)] at h2
            · simp [find?] at h2
            · rcases List.mem_cons.1 hz with rfl | hz
              · exact hgt
              · exact String.lt_trans hgt (hx z hz)
      have val : x.2 = y.2 := by
        have h1 := h x.1
        simpa [find?, key] using h1
      have head : x = y := Prod.ext key val
      subst head
      have rest : l = m := by
        refine ih tail_x tail_y fun name => ?_
        by_cases hn : x.1 = name
        · subst hn
          rw [find?_eq_none_of_lt hx, find?_eq_none_of_lt hy]
        · simpa [find?, hn] using h name
      rw [rest]

end Entries

/-! ## Bags -/

/-- Values by name, listed by ascending name. -/
structure Bag (α : Type u) where
  entries : List (String × α)
  ascending : Entries.Ascending entries

namespace Bag

variable {α : Type u} {β : Type v}

instance [DecidableEq α] : DecidableEq (Bag α) := fun a b =>
  decidable_of_iff (a.entries = b.entries)
    ⟨fun h => by cases a; cases b; simp_all, fun h => h ▸ rfl⟩

def empty : Bag α := ⟨[], List.Pairwise.nil⟩

instance : EmptyCollection (Bag α) := ⟨empty⟩
instance : Inhabited (Bag α) := ⟨empty⟩

def get? (bag : Bag α) (name : String) : Option α := Entries.find? name bag.entries

def contains (bag : Bag α) (name : String) : Bool := (bag.get? name).isSome

/-- Put a value under a name, replacing the one it had. -/
def insert (bag : Bag α) (name : String) (a : α) : Bag α :=
  ⟨Entries.put name a bag.entries, Entries.ascending_put name a bag.ascending⟩

def erase (bag : Bag α) (name : String) : Bag α :=
  ⟨Entries.drop name bag.entries, Entries.ascending_drop name bag.ascending⟩

/-- The names that have a value, ascending. -/
def names (bag : Bag α) : List String := bag.entries.map (·.1)

/-- Put entries in one after the other; of two with one name the later stays. -/
def insertAll (bag : Bag α) (l : List (String × α)) : Bag α :=
  l.foldl (fun b e => b.insert e.1 e.2) bag

/-- The bag of a list of entries; of two with one name the later stays. -/
def ofList (l : List (String × α)) : Bag α := empty.insertAll l

/-- Keep the entries that pass a test. -/
def filter (bag : Bag α) (keep : String → α → Bool) : Bag α :=
  ⟨bag.entries.filter fun e => keep e.1 e.2,
    List.Pairwise.sublist (List.Sublist.map _ List.filter_sublist) bag.ascending⟩

def isEmpty (bag : Bag α) : Bool := bag.entries.isEmpty

def size (bag : Bag α) : Nat := bag.entries.length

@[simp] theorem get?_empty (name : String) : (empty : Bag α).get? name = none := rfl

@[grind =] theorem get?_insert (bag : Bag α) (name other : String) (a : α) :
    (bag.insert name a).get? other = if other = name then some a else bag.get? other :=
  Entries.find?_put name other a bag.entries

@[simp] theorem get?_insert_self (bag : Bag α) (name : String) (a : α) :
    (bag.insert name a).get? name = some a := by simp [get?_insert]

@[grind =] theorem get?_erase (bag : Bag α) (name other : String) :
    (bag.erase name).get? other = if other = name then none else bag.get? other :=
  Entries.find?_drop name other bag.entries

/-- Bags that answer every name alike are equal. -/
@[ext] theorem ext_get? {a b : Bag α} (h : ∀ name, a.get? name = b.get? name) : a = b := by
  cases a with
  | mk l hl =>
    cases b with
    | mk m hm =>
      have : l = m := Entries.eq_of_find?_eq hl hm h
      subst this
      rfl

end Bag

/-- A set of names. -/
abbrev Names := Bag Unit

namespace Names

def add (names : Names) (name : String) : Names := names.insert name ()

end Names

end EntityStore
