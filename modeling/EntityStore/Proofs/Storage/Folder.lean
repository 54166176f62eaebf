import EntityStore.Proofs.Bag
import EntityStore.Proofs.Storage.Key
import EntityStore.Storage.Folder

set_option autoImplicit false

/-! # What a folder tree gives

In a tree where every file and folder is in a folder (`Folder.IsClosed`), a walk down a path finds
what stands there, unless it leads through a file (`IsClosed.reaches`). Where it does not, folders
can be made and files written, renamed and removed, and the tree is closed afterwards. -/

namespace EntityStore

/-- What a walk finds that ends at something. -/
def FolderEntry.found : FolderEntry → Folder.Found
  | .file text => .file text
  | .folder => .folder

namespace Folder

/-- What stands under a path. -/
def get? (f : Folder) (path : String) : Option FolderEntry := f.entries.get? path

/-- Whatever stands in the tree is in a folder. -/
structure IsClosed (f : Folder) : Prop where
  /-- The root is no entry of its own. -/
  root : f.get? "" = none
  /-- What stands below a path stands below a folder. -/
  above : ∀ path key, Key.IsAbove path key → f.get? key ≠ none → f.get? path = some .folder

/-- All folders above a path are there. -/
def LeadsTo (f : Folder) (path : String) : Prop :=
  ∀ above, Key.IsAbove above path → f.get? above = some .folder

/-- A walk down a path finds what stands there. -/
def Reaches (f : Folder) (path : List String) : Prop :=
  f.find path = ((f.get? (Key.ofSegments path)).map FolderEntry.found).getD .absent

/-! ## Walks -/

section Walk

variable {f : Folder} {above rest : List String}

theorem walk_cons {name : String} (isName : isName name = true) :
    f.walk above (name :: rest) =
      match f.get? (Key.ofSegments (above ++ [name])), rest with
      | none, _ => .absent
      | some .folder, _ => f.walk (above ++ [name]) rest
      | some (.file text), [] => .file text
      | some (.file _), _ => .refused := by
  rw [walk, isName, Bool.not_true, if_neg Bool.false_ne_true]
  rfl

/-- A walk ends at what stands under its path. -/
theorem IsClosed.walk_of_get? (closed : f.IsClosed) (filled : rest ≠ [])
    (names : ∀ name ∈ rest, isName name = true) {e : FolderEntry}
    (there : f.get? (Key.ofSegments (above ++ rest)) = some e) : f.walk above rest = e.found := by
  induction rest generalizing above with
  | nil => exact absurd rfl filled
  | cons name rest ih =>
    obtain ⟨isName, names⟩ := List.forall_mem_cons.1 names
    rw [← List.singleton_append, ← List.append_assoc] at there
    rw [walk_cons isName]
    cases rest with
    | nil =>
      rw [List.append_nil] at there
      rw [there]
      cases e <;> rfl
    | cons next rest =>
      -- What stands below is in a folder here.
      have inside : Key.IsAbove (Key.ofSegments (above ++ [name]))
          (Key.ofSegments (above ++ [name] ++ next :: rest)) :=
        Key.isAbove_ofSegments (by simp) (by simp)
      rw [closed.above _ _ inside (by rw [there]; simp)]
      exact ih (by simp) names there

/-- A walk to a path where nothing stands finds nothing, unless there is a file in the way. -/
theorem walk_of_get?_eq_none (filled : rest ≠ []) (names : ∀ name ∈ rest, isName name = true)
    (there : f.get? (Key.ofSegments (above ++ rest)) = none)
    (clear : ∀ a b, a ≠ [] → b ≠ [] → rest = a ++ b → ∀ text,
      f.get? (Key.ofSegments (above ++ a)) ≠ some (.file text)) :
    f.walk above rest = .absent := by
  induction rest generalizing above with
  | nil => exact absurd rfl filled
  | cons name rest ih =>
    obtain ⟨isName, names⟩ := List.forall_mem_cons.1 names
    rw [← List.singleton_append, ← List.append_assoc] at there
    rw [walk_cons isName]
    cases rest with
    | nil =>
      rw [List.append_nil] at there
      rw [there]
    | cons next rest =>
      have blocked := clear [name] (next :: rest) (by simp) (by simp) rfl
      cases here : f.get? (Key.ofSegments (above ++ [name])) with
      | none => rfl
      | some e =>
        cases e with
        | file text => exact absurd here (blocked text)
        | folder =>
          refine ih (by simp) names there fun a b ha hb eq text => ?_
          have further := clear (name :: a) b (by simp) hb (by rw [eq, List.cons_append]) text
          rwa [← List.singleton_append, ← List.append_assoc] at further

/-- A walk from the root finds what stands under its path, unless there is a file in the way. -/
theorem IsClosed.reaches (closed : f.IsClosed) {path : List String} (filled : path ≠ [])
    (given : isPath path = true) (names : ∀ name ∈ path, isName name = true)
    (clear : ∀ above, Key.IsAbove above (Key.ofSegments path) → ∀ text,
      f.get? above ≠ some (.file text)) : f.Reaches path := by
  rw [Reaches, find, given, if_pos rfl]
  cases there : f.get? (Key.ofSegments path) with
  | some e => exact closed.walk_of_get? filled names there
  | none =>
    refine walk_of_get?_eq_none filled names there fun a b ha hb eq text => ?_
    exact clear _ (eq ▸ Key.isAbove_ofSegments ha hb) text

end Walk

/-! ## Making folders -/

/-- The first of several folders is there, or it is made; then the others are made below it. -/
theorem makeFrom_cons {f : Folder} {above : List String} {name : String} (names : List String)
    (isName : isName name = true)
    (clear : ∀ text, f.get? (Key.ofSegments (above ++ [name])) ≠ some (.file text)) :
    ∃ g : Folder, f.makeFrom above (name :: names) = g.makeFrom (above ++ [name]) names ∧
      g.get? (Key.ofSegments (above ++ [name])) = some .folder ∧
      ∀ path, path ≠ Key.ofSegments (above ++ [name]) → g.get? path = f.get? path := by
  rw [makeFrom, isName, Bool.not_true, if_neg Bool.false_ne_true]
  cases there : f.get? (Key.ofSegments (above ++ [name])) with
  | none =>
    have here : f.entries.get? (Key.ofSegments (above ++ [name])) = none := there
    simp only [here]
    exact ⟨_, rfl, Bag.get?_insert_self _ _ _, fun path other =>
      (Bag.get?_insert _ _ _ _).trans (if_neg other)⟩
  | some e =>
    cases e with
    | folder =>
      have here : f.entries.get? (Key.ofSegments (above ++ [name])) = some .folder := there
      simp only [here]
      exact ⟨f, rfl, there, fun _ _ => rfl⟩
    | file text => exact absurd there (clear text)

/-- All folders of a path can be made if there is no file in the way. What stood elsewhere is still
there. -/
theorem makeFrom_eq {f : Folder} (above : List String) {names : List String}
    (isNames : ∀ name ∈ names, isName name = true)
    (clear : ∀ a, a ≠ [] → a <+: names → ∀ text,
      f.get? (Key.ofSegments (above ++ a)) ≠ some (.file text)) :
    ∃ g, f.makeFrom above names = (true, g) ∧
      (∀ a, a ≠ [] → a <+: names → g.get? (Key.ofSegments (above ++ a)) = some .folder) ∧
      ∀ path, (∀ a, a ≠ [] → a <+: names → path ≠ Key.ofSegments (above ++ a)) →
        g.get? path = f.get? path := by
  induction names generalizing f above with
  | nil => exact ⟨f, rfl, fun a ha h => absurd (List.prefix_nil.1 h) ha, fun _ _ => rfl⟩
  | cons name names ih =>
    obtain ⟨isName, isNames⟩ := List.forall_mem_cons.1 isNames
    have longer (a : List String) : above ++ name :: a = above ++ [name] ++ a := by simp
    obtain ⟨made, start, here, kept⟩ := makeFrom_cons names isName
      (clear [name] (by simp) (by simp))
    have stillClear : ∀ a, a ≠ [] → a <+: names → ∀ text,
        made.get? (Key.ofSegments (above ++ [name] ++ a)) ≠ some (.file text) := by
      intro a ha h text
      by_cases same : Key.ofSegments (above ++ [name] ++ a) = Key.ofSegments (above ++ [name])
      · rw [same, here]
        simp
      · rw [kept _ same, ← longer]
        exact clear (name :: a) (by simp) (List.cons_prefix_cons.2 ⟨rfl, h⟩) text
    obtain ⟨g, makes, folders, others⟩ := ih _ isNames stillClear
    -- The first folder is still there after the others are made.
    have first : g.get? (Key.ofSegments (above ++ [name])) = some .folder := by
      by_cases again : ∃ a, a ≠ [] ∧ a <+: names ∧
          Key.ofSegments (above ++ [name]) = Key.ofSegments (above ++ [name] ++ a)
      · obtain ⟨a, ha, h, same⟩ := again
        rw [same]
        exact folders a ha h
      · rw [others _ fun a ha h same => again ⟨a, ha, h, same⟩]
        exact here
    refine ⟨g, start.trans makes, fun a ha h => ?_, fun path other => ?_⟩
    · obtain ⟨b, rfl, hb⟩ := List.prefix_cons_iff.1 h |>.resolve_left ha
      rw [longer]
      cases b with
      | nil => rwa [List.append_nil]
      | cons c b => exact folders _ (by simp) hb
    · rw [others path fun a ha h => ?_, kept path (other [name] (by simp) (by simp))]
      rw [← longer]
      exact other (name :: a) (by simp) (List.cons_prefix_cons.2 ⟨rfl, h⟩)

/-- All folders above a key can be made if there is no file in the way. What stood elsewhere is
still there. -/
theorem makeFolders_eq {f : Folder} {key : String}
    (given : isPath (Key.segments key) = true)
    (isNames : ∀ name ∈ Key.segments key, isName name = true)
    (clear : ∀ path, Key.IsAbove path key → ∀ text, f.get? path ≠ some (.file text)) :
    ∃ g, f.makeFolders (Key.segments key).dropLast = (true, g) ∧
      g.LeadsTo key ∧ ∀ path, ¬ Key.IsAbove path key → g.get? path = f.get? path := by
  have within {name : String} (h : name ∈ (Key.segments key).dropLast) :
      name ∈ Key.segments key := List.dropLast_subset _ h
  have given : isPath (Key.segments key).dropLast = true :=
    List.all_eq_true.2 fun name h => List.all_eq_true.1 given name (within h)
  -- The folders on the way are those above the key.
  have above {a : List String} (ha : a ≠ []) (h : a <+: (Key.segments key).dropLast) :
      Key.IsAbove (Key.ofSegments ([] ++ a)) key := by
    obtain ⟨b, eq⟩ := h
    have parts := List.dropLast_append_getLast (Key.segments_ne_nil key)
    rw [← eq, List.append_assoc] at parts
    rw [← Key.ofSegments_segments key, ← parts]
    exact Key.isAbove_ofSegments ha (by simp)
  have onWay {path : String} (h : Key.IsAbove path key) :
      Key.segments path <+: (Key.segments key).dropLast := by
    obtain ⟨rest, rfl⟩ := h
    rw [Key.segments_append, List.dropLast_append_of_ne_nil (Key.segments_ne_nil rest)]
    exact List.prefix_append _ _
  obtain ⟨g, makes, folders, others⟩ := makeFrom_eq []
    (fun name h => isNames name (within h)) fun a ha h text => clear _ (above ha h) text
  refine ⟨g, ?_, fun path h => ?_, fun path h => ?_⟩
  · rw [makeFolders, given, if_pos rfl, makes]
  · rw [← Key.ofSegments_segments path]
    exact folders _ (Key.segments_ne_nil path) (onWay h)
  · exact others path fun a ha h' same => h (same ▸ above ha h')

/-! ## Changes -/

section Changes

variable {f : Folder}

/-- Making the folders above a key keeps the tree closed. -/
theorem IsClosed.makeFolders_eq (closed : f.IsClosed) {key : String}
    (valid : Key.isValid key = true) (given : isPath (Key.segments key) = true)
    (isNames : ∀ name ∈ Key.segments key, isName name = true)
    (clear : ∀ path, Key.IsAbove path key → ∀ text, f.get? path ≠ some (.file text)) :
    ∃ g, f.makeFolders (Key.segments key).dropLast = (true, g) ∧ g.IsClosed ∧
      g.LeadsTo key ∧ ∀ path, ¬ Key.IsAbove path key → g.get? path = f.get? path := by
  obtain ⟨g, makes, folders, others⟩ := Folder.makeFolders_eq given isNames clear
  refine ⟨g, makes, ⟨?_, fun path other above there => ?_⟩, folders, others⟩
  · have root : ¬ Key.IsAbove "" key := fun above => absurd (above.isValid valid) (by decide)
    rw [others "" root]
    exact closed.root
  · by_cases made : Key.IsAbove path key
    · exact folders path made
    · have below : ¬ Key.IsAbove other key := fun h => made (above.trans h)
      rw [others other below] at there
      rw [others path made]
      exact closed.above path other above there

theorem IsClosed.insertFile (closed : f.IsClosed) {path : String} (filled : path ≠ "")
    (inside : f.LeadsTo path)
    (place : f.get? path ≠ some .folder) (text : String) :
    IsClosed ⟨f.entries.insert path (.file text)⟩ := by
  have others {other : String} (h : other ≠ path) :
      get? ⟨f.entries.insert path (.file text)⟩ other = f.get? other :=
    (Bag.get?_insert _ _ _ _).trans (if_neg h)
  refine ⟨(others (Ne.symm filled)).trans closed.root, fun above key h there => ?_⟩
  have folder : f.get? above = some .folder := by
    by_cases new : key = path
    · exact inside above (new ▸ h)
    · exact closed.above above key h (others new ▸ there)
  rw [others fun eq => place (eq ▸ folder)]
  exact folder

theorem IsClosed.eraseFile (closed : f.IsClosed) {path : String}
    (place : f.get? path ≠ some .folder) : IsClosed ⟨f.entries.erase path⟩ := by
  have answer (other : String) : get? ⟨f.entries.erase path⟩ other =
      if other = path then none else f.get? other := Bag.get?_erase _ _ _
  constructor
  · rw [answer, closed.root, ite_self]
  · intro above key h there
    have still : f.get? key ≠ none := fun gone => there (by rw [answer, gone, ite_self])
    have folder := closed.above above key h still
    have kept : above ≠ path := fun eq => place (eq ▸ folder)
    rw [answer, if_neg kept, folder]

variable {path source target : List String}

/-- A file can be written into a folder, also in place of another file. -/
theorem IsClosed.writeFile_eq (closed : f.IsClosed) (reaches : f.Reaches path)
    (filled : Key.ofSegments path ≠ "") (parent : f.find path.dropLast = .folder)
    (inside : f.LeadsTo (Key.ofSegments path))
    (place : f.get? (Key.ofSegments path) ≠ some .folder) (text : String) :
    ∃ g, f.writeFile path text = (true, g) ∧ g.IsClosed ∧ ∀ other, g.get? other =
      if other = Key.ofSegments path then some (.file text) else f.get? other := by
  refine ⟨_, ?_, closed.insertFile filled inside place text, fun other => Bag.get?_insert _ _ _ _⟩
  unfold writeFile
  rw [reaches, parent]
  cases there : f.get? (Key.ofSegments path) with
  | none => rfl
  | some e =>
    cases e with
    | file text => rfl
    | folder => exact absurd there place

/-- A file can be given another path, also in place of another file. -/
theorem IsClosed.renameFile_eq (closed : f.IsClosed) {text : String} (reaches : f.Reaches source)
    (here : f.get? (Key.ofSegments source) = some (.file text)) (reaches' : f.Reaches target)
    (filled : Key.ofSegments target ≠ "")
    (inside : f.LeadsTo (Key.ofSegments target))
    (place : f.get? (Key.ofSegments target) ≠ some .folder) :
    ∃ g, f.renameFile source target = (true, g) ∧ g.IsClosed ∧ ∀ other, g.get? other =
      if other = Key.ofSegments target then some (.file text)
      else if other = Key.ofSegments source then none else f.get? other := by
  have noFolder : f.get? (Key.ofSegments source) ≠ some .folder := by
    rw [here]
    simp
  have erased (other : String) : get? ⟨f.entries.erase (Key.ofSegments source)⟩ other =
      if other = Key.ofSegments source then none else f.get? other := Bag.get?_erase _ _ _
  refine ⟨⟨(f.entries.erase (Key.ofSegments source)).insert (Key.ofSegments target) (.file text)⟩,
    ?_, (closed.eraseFile noFolder).insertFile filled (fun above h => ?_) ?_ text, fun other => ?_⟩
  · unfold renameFile
    rw [reaches, here, reaches']
    cases there : f.get? (Key.ofSegments target) with
    | none => rfl
    | some e =>
      cases e with
      | file text => rfl
      | folder => exact absurd there place
  · have folder := inside above h
    have other : above ≠ Key.ofSegments source := fun eq => noFolder (eq ▸ folder)
    rw [erased, if_neg other, folder]
  · rw [erased]
    split
    · simp
    · exact place
  · rw [← erased]
    exact Bag.get?_insert _ _ _ _

/-- Afterwards there is no file under the path, and the tree is closed. -/
theorem IsClosed.removeFile_eq (closed : f.IsClosed) (reaches : f.Reaches path)
    (place : f.get? (Key.ofSegments path) ≠ some .folder) :
    ∃ g, f.removeFile path = (true, g) ∧ g.IsClosed ∧
      ∀ other, g.get? other = if other = Key.ofSegments path then none else f.get? other := by
  unfold removeFile
  rw [reaches]
  cases there : f.get? (Key.ofSegments path) with
  | none =>
    refine ⟨f, rfl, closed, fun other => ?_⟩
    split
    · next eq => rw [eq, there]
    · rfl
  | some e =>
    cases e with
    | file text => exact ⟨_, rfl, closed.eraseFile place, fun other => Bag.get?_erase _ _ _⟩
    | folder => exact absurd there place

/-- Afterwards there is nothing under and below the key, and the tree is closed. -/
theorem IsClosed.removeFolder_eq (closed : f.IsClosed) {key : String}
    (reaches : f.Reaches (Key.segments key)) (place : ∀ text, f.get? key ≠ some (.file text)) :
    ∃ g, f.removeFolder (Key.segments key) = (true, g) ∧ g.IsClosed ∧
      ∀ path, g.get? path = if Key.isBelow path key then none else f.get? path := by
  unfold removeFolder
  rw [reaches, Key.ofSegments_segments]
  cases there : f.get? key with
  | none =>
    refine ⟨f, rfl, closed, fun path => ?_⟩
    split
    · next below =>
      -- Without the folder, nothing is below it.
      rcases Key.isBelow_iff.1 below with rfl | above
      · exact there
      · by_contra standing
        have folder := closed.above key path above standing
        rw [there] at folder
        exact absurd folder (by simp)
    · rfl
  | some e =>
    cases e with
    | file text => exact absurd there (place text)
    | folder =>
      have answer (path : String) : get? ⟨f.entries.filter fun p _ => !Key.isBelow p key⟩ path =
          if Key.isBelow path key then none else f.get? path := by
        refine (Bag.get?_filter _ _ _).trans ?_
        rw [get?]
        cases Key.isBelow path key <;> cases f.entries.get? path <;> rfl
      refine ⟨_, rfl, ⟨?_, fun above path h standing => ?_⟩, answer⟩
      · rw [answer, closed.root, ite_self]
      · rw [answer] at standing ⊢
        split at standing
        · exact absurd rfl standing
        · next apart =>
          rw [if_neg fun below => apart (h.isBelow below)]
          exact closed.above above path h standing

end Changes

end Folder

end EntityStore
