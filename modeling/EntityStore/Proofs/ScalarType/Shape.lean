import EntityStore.Proofs.Text.CaseMap
import EntityStore.ScalarType.Coerce

set_option autoImplicit false

/-! # The shape of a text is settled after one time

A property may ask for texts without blanks at the ends, for single spaces, and for a case. A change
of case is a rendering, so it undoes neither of the first two, and a text in shape is left alone
(`shape_shape`). -/

namespace EntityStore.ScalarType

open Text

/-- The characters of a text after trimming and collapsing, so far as the property asks for them. -/
def spaced (p : Property) (s : List Char) : List Char :=
  let s := if p.trim then trimList s else s
  if p.reduceSpace then collapseList false s else s

/-- The characters of a text in the case for which the property asks. -/
def inCase (p : Property) (s : List Char) : List Char :=
  if p.upperCase then s.flatMap upperChar else if p.lowerCase then lowerFrom [] s else s

theorem toList_shape (p : Property) (s : String) :
    (shape p s).toList = inCase p (spaced p s.toList) := by
  unfold shape inCase spaced
  cases p.trim <;> cases p.reduceSpace <;> cases p.upperCase <;> cases p.lowerCase <;>
    simp [trim, collapse, upper, lower]

theorem trimmed_spaced {p : Property} (h : p.trim = true) (s : List Char) :
    Trimmed (spaced p s) := by
  unfold spaced
  simp only [h, if_true]
  split
  · exact (trimmed_trimList s).collapseList
  · exact trimmed_trimList s

theorem collapsed_spaced {p : Property} (h : p.reduceSpace = true) (s : List Char) :
    collapseList false (spaced p s) = spaced p s := by
  unfold spaced
  simp only [h, if_true]
  exact collapseList_collapseList false _

/-- Renderings of a text that is spaced already keep their spaces. -/
theorem spaced_rendering {p : Property} {s t : List Char} (h : Rendering (spaced p s) t) :
    spaced p t = t := by
  have trimmed : (if p.trim then trimList t else t) = t := by
    split
    · next ht => exact trimList_eq_self (h.trimmed (trimmed_spaced ht s))
    · rfl
  have collapsed : (if p.reduceSpace then collapseList false t else t) = t := by
    split
    · next hr => exact h.collapsed (collapsed_spaced hr s)
    · rfl
  rw [spaced, trimmed]
  exact collapsed

theorem rendering_inCase (p : Property) (s : List Char) : Rendering s (inCase p s) := by
  unfold inCase
  split
  · exact rendering_upper s
  · split
    · exact rendering_lower [] s
    · exact .refl s

theorem inCase_inCase (p : Property) (s : List Char) : inCase p (inCase p s) = inCase p s := by
  unfold inCase
  split
  · exact upper_upper s
  · split
    · exact lowerFrom_lowerFrom [] [] s
    · rfl

/-- A text in shape keeps its shape. -/
theorem shape_shape (p : Property) (s : String) : shape p (shape p s) = shape p s := by
  apply String.toList_inj.1
  rw [toList_shape, toList_shape, spaced_rendering (rendering_inCase p _), inCase_inCase]

end EntityStore.ScalarType
