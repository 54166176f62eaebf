import EntityStore.Proofs.Text.Blank
import Mathlib.Data.List.Chain

set_option autoImplicit false

/-! # The words of a text

The words of a text are its maximal runs of characters that are not blank. `ListsRuns` says it
without a scan of the text: each run is given with what stands before and after it, all of them are
listed, and from left to right. The scan for words finds these (`exists_listsRuns`).

Trimming and then collapsing a text amounts to writing its words with one space between each two
(`collapseList_trimList`). The flag that collapsing carries tells whether the scan for words is
between two of them, and this is the invariant that relates the two loops. -/

namespace EntityStore.Text

/-- Some characters, and none of them is blank. -/
structure IsWord (w : List Char) : Prop where
  filled : w ≠ []
  letters : ∀ c ∈ w, isBlank c = false

/-- A text is empty or begins with a blank character. -/
def Parted (s : List Char) : Prop := ∀ c, s.head? = some c → isBlank c = true

theorem isBlank_space : isBlank ' ' = true := by decide

theorem parted_nil : Parted [] := by simp [Parted]

theorem parted_cons {c : Char} {s : List Char} : Parted (c :: s) ↔ isBlank c = true := by
  simp [Parted]

namespace Parted

variable {s t : List Char}

theorem append (h : Parted s) (hne : s ≠ []) : Parted (s ++ t) := by
  obtain ⟨c, rest, rfl⟩ := List.exists_cons_of_ne_nil hne
  exact parted_cons.2 (parted_cons.1 h)

theorem of_append (h : Parted (s ++ t)) : Parted s := by
  cases s with
  | nil => exact parted_nil
  | cons c rest => exact parted_cons.2 (parted_cons.1 h)

theorem eq_nil (h : Parted s) (letters : ∀ c ∈ s, isBlank c = false) : s = [] := by
  cases s with
  | nil => rfl
  | cons c rest => simp [parted_cons.1 h] at letters

end Parted

namespace IsWord

variable {v w s t : List Char}

theorem reverse (h : IsWord w) : IsWord w.reverse :=
  ⟨List.reverse_ne_nil_iff.2 h.filled, by simpa using h.letters⟩

/-- No start of a word ends at a blank character, but for the empty one. -/
theorem eq_nil_of_parted_reverse (h : IsWord w) (split : w = s ++ t) (hs : Parted s.reverse) :
    s = [] := by
  refine List.reverse_eq_nil_iff.1 (hs.eq_nil fun c hc => ?_)
  exact h.letters c (split ▸ List.mem_append_left t (List.mem_reverse.1 hc))

/-- No end of a word begins with a blank character, but for the empty one. -/
theorem eq_nil_of_parted (h : IsWord w) (split : w = s ++ t) (ht : Parted t) : t = [] :=
  ht.eq_nil fun c hc => h.letters c (split ▸ List.mem_append_right s hc)

/-- There is one way only to read a word that is followed by a blank character or by nothing. -/
theorem append_inj (hv : IsWord v) (hw : IsWord w) (hs : Parted s) (ht : Parted t)
    (h : v ++ s = w ++ t) : v = w ∧ s = t := by
  rcases List.append_eq_append_iff.1 h with ⟨tail, split, rfl⟩ | ⟨tail, split, rfl⟩
  · obtain rfl : tail = [] := hw.eq_nil_of_parted split hs.of_append
    simpa using split.symm
  · obtain rfl : tail = [] := hv.eq_nil_of_parted split ht.of_append
    simpa using split

end IsWord

/-! ## Maximal runs -/

/-- Some characters of a text in a row, with what stands before and after them. -/
structure Stretch where
  before : List Char
  word : List Char
  after : List Char

namespace Stretch

/-- A stretch of a text is a maximal run of characters that are not blank: on either side stands a
blank character or nothing. -/
structure IsRun (r : Stretch) (s : List Char) : Prop where
  text : r.before ++ (r.word ++ r.after) = s
  isWord : IsWord r.word
  opened : Parted r.before.reverse
  closed : Parted r.after

/-- The stretch in the text with more characters in front of it. -/
def behind (front : List Char) (r : Stretch) : Stretch := { r with before := front ++ r.before }

@[simp]
theorem behind_word (front : List Char) (r : Stretch) : (r.behind front).word = r.word := rfl

variable {r : Stretch} {s front : List Char}

theorem IsRun.before_ne_nil (h : r.IsRun s) (hs : Parted s) : r.before ≠ [] := by
  intro start
  have text := h.text
  rw [start, List.nil_append] at text
  rw [← text] at hs
  exact h.isWord.filled (hs.of_append.eq_nil h.isWord.letters)

theorem IsRun.behind_of_ne_nil (h : r.IsRun s) (hr : r.before ≠ []) :
    (r.behind front).IsRun (front ++ s) := by
  refine ⟨by rw [← h.text]; simp [behind], h.isWord, ?_, h.closed⟩
  rw [behind, List.reverse_append]
  exact h.opened.append (List.reverse_ne_nil_iff.2 hr)

theorem IsRun.behind_blank (h : r.IsRun s) {c : Char} (hc : isBlank c = true) :
    (r.behind [c]).IsRun (c :: s) := by
  by_cases hr : r.before = []
  · refine ⟨by rw [← h.text]; simp [behind], h.isWord, ?_, h.closed⟩
    rw [behind, hr]
    exact parted_cons.2 hc
  · exact h.behind_of_ne_nil hr

/-- What follows the characters in front is a run without them. -/
theorem IsRun.of_behind (front : List Char) (h : (r.behind front).IsRun (front ++ s)) :
    r.IsRun s := by
  have text : front ++ (r.before ++ (r.word ++ r.after)) = front ++ s := by
    simpa [behind] using h.text
  have opened : Parted (r.before.reverse ++ front.reverse) := by
    simpa [behind] using h.opened
  exact ⟨List.append_cancel_left text, h.isWord, opened.of_append, h.closed⟩

end Stretch

/-- The runs are all maximal runs of a text, from left to right. -/
structure ListsRuns (s : List Char) (runs : List Stretch) : Prop where
  ordered : runs.Pairwise fun r r' => r.before.length < r'.before.length
  complete : ∀ r, r ∈ runs ↔ r.IsRun s

namespace ListsRuns

variable {s w rest : List Char} {runs : List Stretch}

theorem ordered_behind (h : ListsRuns s runs) (front : List Char) :
    (runs.map (·.behind front)).Pairwise fun r r' => r.before.length < r'.before.length := by
  rw [List.pairwise_map]
  exact h.ordered.imp fun shorter => by simpa [Stretch.behind] using shorter

theorem nil : ListsRuns [] [] := by
  refine ⟨.nil, fun r => ⟨fun mem => absurd mem List.not_mem_nil, fun run => ?_⟩⟩
  exact absurd (List.append_eq_nil_iff.1 run.text).1 (run.before_ne_nil parted_nil)

/-- A blank character in front moves the runs. -/
theorem cons_blank (h : ListsRuns s runs) {c : Char} (hc : isBlank c = true) :
    ListsRuns (c :: s) (runs.map (·.behind [c])) := by
  refine ⟨h.ordered_behind [c], fun r => ?_⟩
  rw [List.mem_map]
  constructor
  · rintro ⟨r', mem, rfl⟩
    exact ((h.complete r').1 mem).behind_blank hc
  · intro run
    obtain ⟨before, word, after⟩ := r
    -- No run begins with the blank character.
    obtain ⟨d, start, rfl⟩ := List.exists_cons_of_ne_nil (run.before_ne_nil (parted_cons.2 hc))
    obtain rfl : d = c := (List.cons.inj run.text).1
    have moved : Stretch.IsRun ⟨start, word, after⟩ s := .of_behind [d] run
    exact ⟨⟨start, word, after⟩, (h.complete _).2 moved, rfl⟩

/-- A word in front is the first run, and moves the others. -/
theorem word_append (h : ListsRuns rest runs) (hw : IsWord w) (hrest : Parted rest) :
    ListsRuns (w ++ rest) (⟨[], w, rest⟩ :: runs.map (·.behind w)) := by
  constructor
  · refine List.pairwise_cons.2 ⟨fun r mem => ?_, h.ordered_behind w⟩
    obtain ⟨r', -, rfl⟩ := List.mem_map.1 mem
    have long := List.length_pos_of_ne_nil hw.filled
    simp only [Stretch.behind, List.length_nil, List.length_append]
    omega
  · intro r
    rw [List.mem_cons, List.mem_map]
    constructor
    · rintro (rfl | ⟨r', mem, rfl⟩)
      · exact ⟨rfl, hw, parted_nil, hrest⟩
      · have run := (h.complete r').1 mem
        exact run.behind_of_ne_nil (run.before_ne_nil hrest)
    · intro run
      obtain ⟨before, word, after⟩ := r
      rcases List.append_eq_append_iff.1 run.text with ⟨tail, split, text⟩ | ⟨start, rfl, text⟩
      -- A run that begins within the word begins where the word does.
      · obtain rfl : before = [] := hw.eq_nil_of_parted_reverse split run.opened
        obtain rfl : w = tail := split
        obtain ⟨rfl, rfl⟩ := run.isWord.append_inj hw run.closed hrest text
        exact .inl rfl
      -- Any other one is a run of the rest.
      · have moved : Stretch.IsRun ⟨start, word, after⟩ rest := .of_behind w run
        exact .inr ⟨⟨start, word, after⟩, (h.complete _).2 moved, rfl⟩

end ListsRuns

/-! ## The scan for words -/

/-- The scan finds the runs of the text that begins with the word under way. -/
theorem exists_listsRuns_wordsFrom {word : List Char} (letters : ∀ c ∈ word, isBlank c = false)
    (s : List Char) : ∃ runs, ListsRuns (word.reverse ++ s) runs ∧
      runs.map (·.word) = wordsFrom word s := by
  induction s generalizing word with
  | nil =>
    cases word with
    | nil => exact ⟨[], .nil, rfl⟩
    | cons d word =>
      have isWord : IsWord (d :: word).reverse := .reverse ⟨List.cons_ne_nil d word, letters⟩
      exact ⟨_, ListsRuns.nil.word_append isWord parted_nil, rfl⟩
  | cons c rest ih =>
    unfold wordsFrom
    cases hc : isBlank c with
    | true =>
      obtain ⟨runs, lists, spelled⟩ := @ih [] (by simp)
      have blank : ListsRuns (c :: rest) (runs.map (·.behind [c])) := lists.cons_blank hc
      cases word with
      | nil => exact ⟨_, blank, by simpa [Function.comp_def] using spelled⟩
      | cons d word =>
        -- The word under way ends here.
        have isWord : IsWord (d :: word).reverse := .reverse ⟨List.cons_ne_nil d word, letters⟩
        refine ⟨_, blank.word_append isWord (parted_cons.2 hc), ?_⟩
        simpa [Function.comp_def] using spelled
    | false =>
      obtain ⟨runs, lists, spelled⟩ := ih (List.forall_mem_cons.2 ⟨hc, letters⟩)
      exact ⟨runs, by simpa using lists, spelled⟩

/-- The words of a text are its maximal runs. -/
theorem exists_listsRuns (s : List Char) :
    ∃ runs, ListsRuns s runs ∧ runs.map (·.word) = words s :=
  @exists_listsRuns_wordsFrom [] (by simp) s

theorem wordsFrom_append {w : List Char} (letters : ∀ c ∈ w, isBlank c = false)
    (word s : List Char) : wordsFrom word (w ++ s) = wordsFrom (w.reverse ++ word) s := by
  induction w generalizing word with
  | nil => rfl
  | cons c rest ih =>
    obtain ⟨hc, hrest⟩ := List.forall_mem_cons.1 letters
    rw [List.cons_append, wordsFrom, if_neg (by simp [hc]), ih hrest, List.reverse_cons,
      List.append_assoc, List.singleton_append]

theorem words_cons_blank {c : Char} (hc : isBlank c = true) (s : List Char) :
    words (c :: s) = words s := by
  rw [words, wordsFrom, if_pos hc, List.isEmpty_nil, if_pos rfl, words]

theorem wordsFrom_eq_nil {word s : List Char} (h : wordsFrom word s = []) :
    word = [] ∧ ∀ c ∈ s, isBlank c = true := by
  induction s generalizing word with
  | nil => simpa [wordsFrom] using h
  | cons c rest ih =>
    unfold wordsFrom at h
    split at h
    · next blank =>
      split at h
      · next empty => simpa [blank, List.isEmpty_iff.1 empty] using (ih h).2
      · exact absurd h (List.cons_ne_nil _ _)
    · exact absurd (ih h).1 (List.cons_ne_nil _ _)

/-! ## Trimming and collapsing -/

theorem words_trimFront (s : List Char) : words (trimFront s) = words s := by
  induction s with
  | nil => rfl
  | cons c rest ih =>
    unfold trimFront at ih ⊢
    rw [List.dropWhile_cons]
    split
    · next blank => rw [ih, words_cons_blank blank]
    · rfl

theorem words_blanks {blanks : List Char} (h : ∀ c ∈ blanks, isBlank c = true) :
    words blanks = [] := by
  induction blanks with
  | nil => rfl
  | cons c blanks ih =>
    obtain ⟨hc, hblanks⟩ := List.forall_mem_cons.1 h
    rw [words_cons_blank hc, ih hblanks]

theorem wordsFrom_append_blanks {blanks : List Char} (h : ∀ c ∈ blanks, isBlank c = true)
    (word s : List Char) : wordsFrom word (s ++ blanks) = wordsFrom word s := by
  induction s generalizing word with
  | nil =>
    cases blanks with
    | nil => rfl
    | cons c blanks =>
      obtain ⟨hc, hblanks⟩ := List.forall_mem_cons.1 h
      have ended : wordsFrom [] blanks = [] := words_blanks hblanks
      simp [wordsFrom, hc, ended]
  | cons c rest ih => simp only [List.cons_append, wordsFrom, ih]

theorem words_trimList (s : List Char) : words (trimList s) = words s := by
  have split : trimList s ++ (trimFront s).rtakeWhile isBlank = trimFront s :=
    List.rdropWhile_append_rtakeWhile
  have blanks : ∀ c ∈ (trimFront s).rtakeWhile isBlank, isBlank c = true :=
    fun _ hc => List.mem_rtakeWhile_imp hc
  calc words (trimList s)
      = words (trimList s ++ (trimFront s).rtakeWhile isBlank) :=
        (wordsFrom_append_blanks blanks [] _).symm
    _ = words (trimFront s) := by rw [split]
    _ = words s := words_trimFront s

theorem Fronted.exists_letter {s : List Char} (h : Fronted s) (hne : s ≠ []) :
    ∃ c ∈ s, isBlank c = false := by
  obtain ⟨c, rest, rfl⟩ := List.exists_cons_of_ne_nil hne
  exact ⟨c, List.mem_cons_self, h c rfl⟩

/-- Before a character that is not blank it does not matter whether a blank was before. -/
theorem collapseList_of_fronted {s : List Char} (h : Fronted s) (inside : Bool) :
    collapseList inside s = collapseList false s := by
  cases s with
  | nil => rfl
  | cons c rest => simp [collapseList, h c rfl]

/-- Collapsing keeps the words. Within a run of blanks no word is under way. -/
theorem wordsFrom_collapseList {inside : Bool} {word : List Char} (h : inside = true → word = [])
    (s : List Char) : wordsFrom word (collapseList inside s) = wordsFrom word s := by
  induction s generalizing inside word with
  | nil => rfl
  | cons c rest ih =>
    have blanks : wordsFrom [] (collapseList true rest) = wordsFrom [] rest := ih fun _ => rfl
    have letters : wordsFrom (c :: word) (collapseList false rest) = wordsFrom (c :: word) rest :=
      ih (by simp)
    cases hc : isBlank c with
    | true =>
      cases inside with
      | true => simp [collapseList, wordsFrom, hc, h rfl, blanks]
      | false => simp [collapseList, wordsFrom, hc, isBlank_space, blanks]
    | false => simp [collapseList, wordsFrom, hc, letters]

/-- Collapsing writes the words that the scan finds, if the text does not end with a blank
character. The loops agree at each place: a run of blanks is under way if no word is. -/
theorem intercalate_wordsFrom (word : List Char) {s : List Char} (h : Fronted s.reverse) :
    [' '].intercalate (wordsFrom word s) = word.reverse ++ collapseList word.isEmpty s := by
  induction s generalizing word with
  | nil => cases word <;> simp [wordsFrom, collapseList]
  | cons c rest ih =>
    have hrest : Fronted rest.reverse := h.of_start (by simp)
    unfold wordsFrom collapseList
    cases hc : isBlank c with
    | true =>
      cases word with
      | nil => simpa using ih [] hrest
      | cons d word =>
        -- The text goes on with another word, as it does not end here.
        have more : wordsFrom [] rest ≠ [] := by
          intro ended
          obtain ⟨e, mem, letter⟩ := h.exists_letter (by simp)
          have blanks : ∀ e ∈ c :: rest, isBlank e = true :=
            List.forall_mem_cons.2 ⟨hc, (wordsFrom_eq_nil ended).2⟩
          rw [blanks e (List.mem_reverse.1 mem)] at letter
          exact absurd letter (by decide)
        simp [List.intercalate_cons_of_ne_nil more, ih [] hrest]
    | false => simpa using ih (c :: word) hrest

/-- Trimming and collapsing a text leaves its words, with one space between each two. -/
theorem collapseList_trimList (s : List Char) :
    collapseList false (trimList s) = [' '].intercalate (words s) := by
  obtain ⟨front, back⟩ := trimmed_trimList s
  have read := intercalate_wordsFrom [] back
  rw [List.isEmpty_nil, collapseList_of_fronted front] at read
  rw [← words_trimList s]
  exact read.symm

/-! ## Texts with single spaces -/

/-- The words of runs, with one space between each two. -/
def joined (runs : List Stretch) : String :=
  " ".intercalate (runs.map fun r => String.ofList r.word)

theorem toList_joined (runs : List Stretch) :
    (joined runs).toList = [' '].intercalate (runs.map (·.word)) := by
  simp [joined, String.toList_intercalate, Function.comp_def]

/-- No blank character stands at either end of a text, and no two stand side by side. -/
structure WellSpaced (s : List Char) : Prop where
  trimmed : Trimmed s
  single : s.IsChain fun c d => isBlank c = false ∨ isBlank d = false

theorem fronted_collapseList_true (s : List Char) : Fronted (collapseList true s) := by
  induction s with
  | nil => simp [Fronted, collapseList]
  | cons c rest ih =>
    unfold collapseList
    cases hc : isBlank c with
    | true => simpa using ih
    | false => simp [Fronted, hc]

theorem isChain_collapseList (inside : Bool) (s : List Char) :
    (collapseList inside s).IsChain fun c d => isBlank c = false ∨ isBlank d = false := by
  induction s generalizing inside with
  | nil => exact .nil
  | cons c rest ih =>
    unfold collapseList
    split
    · split
      · exact ih true
      · refine List.isChain_cons.2 ⟨fun d hd => ?_, ih true⟩
        exact .inr (fronted_collapseList_true rest d hd)
    · next letter =>
      exact List.isChain_cons.2 ⟨fun d hd => .inl (by simpa using letter), ih false⟩

/-! ## Renderings -/

/-- A rendering of a text has as many words. -/
theorem Rendering.length_wordsFrom {s t : List Char} (h : Rendering s t) {word word' : List Char}
    (under : word.isEmpty = word'.isEmpty) :
    (wordsFrom word' t).length = (wordsFrom word s).length := by
  induction h generalizing word word' with
  | nil => cases hw : word.isEmpty <;> simp [wordsFrom, ← under, hw]
  | @blank c s t hc rest ih =>
    have more : (wordsFrom [] t).length = (wordsFrom [] s).length := ih rfl
    cases hw : word.isEmpty <;> simp [wordsFrom, hc, ← under, hw, more]
  | @letter c image s t hc hne himage rest ih =>
    rw [wordsFrom_append himage, wordsFrom, if_neg (by simp [hc])]
    exact ih (by simp [hne])

end EntityStore.Text
