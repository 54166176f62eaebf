import Mathlib.Data.List.Nodup

set_option autoImplicit false

/-! # Entries that are accepted one after the other

A list of entries is gone through from left to right. What is wrong is collected, so an entry with a
problem does not end the matter. Whether there is a problem with an entry depends on the entry alone
and on whether its key has been taken by one before it (`Tally.Step`). Then there are no problems
with the list exactly if every entry is sound and no key occurs twice, and then just the keys of the
entries are taken (`Tally.foldl`). As the tally of one list is the start of the next, several lists
can share their keys. -/

namespace EntityStore

variable {S α κ π : Type} {problems : S → List π} {taken : S → κ → Prop}

/-- There are no problems so far exactly if `good` holds and no key occurs twice, and then the keys
are those that are taken. -/
structure Tally (problems : S → List π) (taken : S → κ → Prop) (s : S) (good : Prop)
    (keys : List κ) : Prop where
  /-- There are no problems exactly then. -/
  clean_iff : problems s = [] ↔ good ∧ keys.Nodup
  /-- The keys are those that are taken. -/
  taken_iff : problems s = [] → ∀ k, taken s k ↔ k ∈ keys

namespace Tally

/-- There is no problem with an entry exactly if it is sound and its key is new, and then the key is
taken. -/
structure Step (problems : S → List π) (taken : S → κ → Prop) (f : S → α → S) (sound : α → Prop)
    (key : α → κ) : Prop where
  /-- There is no problem exactly then. -/
  clean_iff : ∀ s a, problems (f s a) = [] ↔ problems s = [] ∧ sound a ∧ ¬ taken s (key a)
  /-- The key is taken. -/
  taken_iff : ∀ s a, problems (f s a) = [] → ∀ k, taken (f s a) k ↔ taken s k ∨ k = key a

variable {f : S → α → S} {sound : α → Prop} {key : α → κ} {s : S} {good : Prop} {keys : List κ}

theorem next (h : Tally problems taken s good keys) (step : Step problems taken f sound key)
    (a : α) : Tally problems taken (f s a) (good ∧ sound a) (keys ++ [key a]) := by
  have clean_iff : problems (f s a) = [] ↔ (good ∧ sound a) ∧ (keys ++ [key a]).Nodup := by
    rw [step.clean_iff, List.nodup_append]
    constructor
    · rintro ⟨before, fine, fresh⟩
      obtain ⟨hg, nodup⟩ := h.clean_iff.1 before
      rw [h.taken_iff before] at fresh
      refine ⟨⟨hg, fine⟩, nodup, List.nodup_singleton _, fun k hk k' hk' same => fresh ?_⟩
      rwa [← List.mem_singleton.1 hk', ← same]
    · rintro ⟨⟨hg, fine⟩, nodup, -, apart⟩
      have before := h.clean_iff.2 ⟨hg, nodup⟩
      rw [h.taken_iff before]
      exact ⟨before, fine, fun known => apart _ known _ (List.mem_singleton_self _) rfl⟩
  refine ⟨clean_iff, fun clean k => ?_⟩
  rw [step.taken_iff s a clean, h.taken_iff ((step.clean_iff s a).1 clean).1]
  simp

/-- The entries of a list count up. -/
theorem foldl (h : Tally problems taken s good keys) (step : Step problems taken f sound key)
    (l : List α) :
    Tally problems taken (l.foldl f s) (good ∧ ∀ a ∈ l, sound a) (keys ++ l.map key) := by
  induction l generalizing s good keys with
  | nil => simpa using h
  | cons a l ih => simpa [and_assoc] using ih (h.next step a)

end Tally

end EntityStore
