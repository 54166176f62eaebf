import EntityStore.Bag

set_option autoImplicit false

/-! # Sections: entries by name in the order of their declaration

A section of a schema holds one entry for each name. Declaring a name again replaces its entry and
keeps its place, so the order is that of the first declarations; the type carries the proof that no
name occurs twice. Merging a section over another one declares all its entries again
(`Section.merge`): an entry of the section that comes later wins. -/

namespace EntityStore

universe u

/-- Entries by name, in the order in which the names were declared. -/
structure Section (α : Type u) where
  entries : List (String × α)
  nodup : (entries.map (·.1)).Nodup

namespace Section

variable {α : Type u}

/-- Replace the entry of a name, or add one at the end. -/
def declareIn (name : String) (a : α) : List (String × α) → List (String × α)
  | [] => [(name, a)]
  | (n, b) :: rest => if n = name then (name, a) :: rest else (n, b) :: declareIn name a rest

theorem map_declareIn (name : String) (a : α) (l : List (String × α)) :
    (declareIn name a l).map (·.1) =
      if name ∈ l.map (·.1) then l.map (·.1) else l.map (·.1) ++ [name] := by
  induction l with
  | nil => simp [declareIn]
  | cons e rest ih =>
    by_cases h : e.1 = name
    · simp [declareIn, h]
    · have h' : name ≠ e.1 := fun e => h e.symm
      simp only [declareIn, h, if_false, List.map_cons, ih, List.mem_cons, h', false_or]
      split <;> simp

theorem nodup_declareIn (name : String) (a : α) {l : List (String × α)}
    (h : (l.map (·.1)).Nodup) : ((declareIn name a l).map (·.1)).Nodup := by
  rw [map_declareIn]
  split
  · exact h
  · rename_i hn
    refine List.nodup_append.2 ⟨h, by simp, ?_⟩
    intro x hx y hy hxy
    simp only [List.mem_singleton] at hy
    exact hn (hy ▸ hxy ▸ hx)

def empty : Section α := ⟨[], List.nodup_nil⟩

instance : EmptyCollection (Section α) := ⟨empty⟩
instance : Inhabited (Section α) := ⟨empty⟩

def get? (s : Section α) (name : String) : Option α := Entries.find? name s.entries

def contains (s : Section α) (name : String) : Bool := (s.get? name).isSome

/-- Declare a name. -/
def insert (s : Section α) (name : String) (a : α) : Section α :=
  ⟨declareIn name a s.entries, nodup_declareIn name a s.nodup⟩

def names (s : Section α) : List String := s.entries.map (·.1)

def size (s : Section α) : Nat := s.entries.length

def isEmpty (s : Section α) : Bool := s.entries.isEmpty

/-- The section that holds the entries of two sections, those of the second one winning. -/
def merge (base own : Section α) : Section α :=
  own.entries.foldl (fun s e => s.insert e.1 e.2) base

/-! ## What the operations do to look-ups and names -/

@[simp] theorem get?_empty (name : String) : (empty : Section α).get? name = none := rfl

theorem find?_declareIn (name other : String) (a : α) (l : List (String × α)) :
    Entries.find? other (declareIn name a l) =
      if other = name then some a else Entries.find? other l := by
  induction l with
  | nil => simp [declareIn, Entries.find?, eq_comm]
  | cons e rest ih =>
    by_cases he : e.1 = name
    · by_cases h : other = name
      · simp [declareIn, he, h, Entries.find?]
      · simp [declareIn, he, h, Ne.symm h, Entries.find?]
    · by_cases h : e.1 = other
      · subst h
        simp [declareIn, he, Entries.find?]
      · simp [declareIn, he, h, Entries.find?, ih]

@[grind =] theorem get?_insert (s : Section α) (name other : String) (a : α) :
    (s.insert name a).get? other = if other = name then some a else s.get? other :=
  find?_declareIn name other a s.entries

@[grind =] theorem names_insert (s : Section α) (name : String) (a : α) :
    (s.insert name a).names = if name ∈ s.names then s.names else s.names ++ [name] :=
  map_declareIn name a s.entries

theorem get?_declareAll (l : List (String × α)) (base : Section α) (name : String)
    (h : (l.map (·.1)).Nodup) :
    (l.foldl (fun s e => s.insert e.1 e.2) base).get? name =
      (Entries.find? name l).or (base.get? name) := by
  induction l generalizing base with
  | nil => rfl
  | cons e rest ih =>
    obtain ⟨he, hr⟩ := List.nodup_cons.1 h
    rw [List.foldl_cons, ih _ hr, get?_insert]
    by_cases hn : name = e.1
    · have absent := Entries.find?_eq_none_iff.2 he
      simp [Entries.find?, hn, absent]
    · simp [Entries.find?, hn, Ne.symm hn]

/-- Of two sections that declare a name, the second one decides. -/
@[simp] theorem get?_merge (base own : Section α) (name : String) :
    (base.merge own).get? name = (own.get? name).or (base.get? name) :=
  get?_declareAll own.entries base name own.nodup

end Section

end EntityStore
