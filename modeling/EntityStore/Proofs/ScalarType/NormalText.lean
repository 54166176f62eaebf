import EntityStore.Proofs.ScalarType.Shape
import EntityStore.Proofs.Text.Words

set_option autoImplicit false

/-! # The normal form of a text

A property that asks for trimmed texts with single spaces keeps of a text its words, with one space
between each two. The case that it may ask for as well is a rendering of this text, so that words
may grow, but none is lost, joined with another one or set apart (`coerce_words`). -/

namespace EntityStore.ScalarType

open Text

theorem words_spaced (p : Property) (s : List Char) : words (spaced p s) = words s := by
  have trimmed : words (if p.trim then trimList s else s) = words s := by
    split
    · exact words_trimList s
    · rfl
  rw [spaced]
  split
  · rw [words, wordsFrom_collapseList (by simp), ← words, trimmed]
  · exact trimmed

/-- A text in shape has as many words as before, whatever the property asks for. -/
theorem length_words_shape (p : Property) (s : String) :
    (words (shape p s).toList).length = (words s.toList).length := by
  rw [toList_shape, ← words_spaced p s.toList]
  exact (rendering_inCase p _).length_wordsFrom rfl

section NormalForm

variable {p : Property} (trims : p.trim = true) (reduces : p.reduceSpace = true)
include trims reduces

theorem spaced_eq_intercalate (s : List Char) : spaced p s = [' '].intercalate (words s) := by
  rw [← collapseList_trimList, spaced, if_pos trims, if_pos reduces]

theorem wellSpaced_inCase (s : List Char) : WellSpaced (inCase p (spaced p s)) := by
  have rendering := rendering_inCase p (spaced p s)
  have fixed := rendering.collapsed (collapsed_spaced reduces s)
  refine ⟨rendering.trimmed (trimmed_spaced trims s), ?_⟩
  rw [← fixed]
  exact isChain_collapseList false _

/-- The text in its case is made from its own words. -/
theorem inCase_eq_intercalate (s : List Char) : inCase p (spaced p s) =
    [' '].intercalate (words (inCase p (spaced p s))) := by
  rw [← spaced_eq_intercalate trims reduces]
  exact (spaced_rendering (rendering_inCase p _)).symm

end NormalForm

/-- A text in its normal form consists of the maximal runs of characters that are not blank, in
their order and with one space between each two. If the property asks for a case, this text is
written in that case; no blank character comes to stand at an end of it or beside another one, and
the words are as many as before. -/
theorem coerce_words {p : Property} (trims : p.trim = true) (reduces : p.reduceSpace = true)
    (default : Option Value) (s : String) :
    ∃ runs : List Stretch, ListsRuns s.toList runs ∧
      ∃ t : String, ScalarType.string.coerce p default (.string s) = .string t ∧
        (p.upperCase = false → p.lowerCase = false → t = joined runs) ∧
        (p.upperCase = true → t = upper (joined runs)) ∧
        (p.upperCase = false → p.lowerCase = true → t = lower (joined runs)) ∧
        WellSpaced t.toList ∧
        ∃ runs' : List Stretch, ListsRuns t.toList runs' ∧ runs'.length = runs.length ∧
          t = joined runs' := by
  obtain ⟨runs, lists, spelled⟩ := exists_listsRuns s.toList
  obtain ⟨runs', lists', spelled'⟩ := exists_listsRuns (shape p s).toList
  have shaped := toList_shape p s
  have plain : spaced p s.toList = (joined runs).toList := by
    rw [toList_joined, spelled, spaced_eq_intercalate trims reduces]
  refine ⟨runs, lists, shape p s, rfl, ?_, ?_, ?_, ?_, runs', lists', ?_, ?_⟩
  · intro notUpper notLower
    apply String.toList_inj.1
    simp [shaped, inCase, notUpper, notLower, plain]
  · intro isUpper
    apply String.toList_inj.1
    simp [shaped, inCase, isUpper, plain, upper]
  · intro notUpper isLower
    apply String.toList_inj.1
    simp [shaped, inCase, notUpper, isLower, plain, lower]
  · rw [shaped]
    exact wellSpaced_inCase trims reduces s.toList
  · have kept := length_words_shape p s
    rwa [← spelled, ← spelled', List.length_map, List.length_map] at kept
  · apply String.toList_inj.1
    rw [toList_joined, spelled', shaped]
    exact inCase_eq_intercalate trims reduces s.toList

/-- Captions are in upper case. -/
def caption : Property := { trim := true, reduceSpace := true, upperCase := true }

/-- Three words among blank characters of several kinds, one of which grows. -/
theorem coerce_words_caption :
    caption.trim = true ∧ caption.reduceSpace = true ∧
      ∃ runs : List Stretch, ListsRuns "\u00a0Maß \t\u2003und  Ziel\n".toList runs ∧
        ScalarType.string.coerce caption none (.string "\u00a0Maß \t\u2003und  Ziel\n") =
          .string "MASS UND ZIEL" ∧
        upper (joined runs) = "MASS UND ZIEL" ∧ WellSpaced "MASS UND ZIEL".toList := by
  have trims : caption.trim = true := rfl
  have reduces : caption.reduceSpace = true := rfl
  have value : ScalarType.string.coerce caption none (.string "\u00a0Maß \t\u2003und  Ziel\n") =
      .string "MASS UND ZIEL" := by decide +kernel
  obtain ⟨runs, lists, t, coerced, -, inUpper, -, wellSpaced, -⟩ :=
    coerce_words trims reduces none "\u00a0Maß \t\u2003und  Ziel\n"
  obtain rfl : t = "MASS UND ZIEL" := Value.string.inj (coerced.symm.trans value)
  exact ⟨trims, reduces, runs, lists, value, (inUpper rfl).symm, wellSpaced⟩

end EntityStore.ScalarType
