import EntityStore.Proofs.Storage.Folder

set_option autoImplicit false

/-! # All files of a folder tree

A walk that lists the root, then the folders found there, and so on, finds the files of a tree
(`IsClosed.mem_filePaths`), each of them once (`IsClosed.nodup_filePaths`). -/

namespace EntityStore.Folder

/-! ## Listing -/

theorem toList_child (folder name : String) : (child folder name).toList =
    (if folder.isEmpty then [] else folder.toList ++ ['/']) ++ name.toList := by
  unfold child
  split <;> simp

/-- What has a name in a folder has the path that follows from the name. -/
theorem nameIn?_eq_some {folder path name : String} :
    nameIn? folder path = some name ↔ '/' ∉ name.toList ∧ path = child folder name := by
  unfold nameIn?
  dsimp only
  have chars := toList_child folder name
  generalize (if folder.isEmpty then [] else folder.toList ++ ['/'] : List Char) = start at chars ⊢
  rw [Option.ite_none_right_eq_some, Bool.and_eq_true, List.isPrefixOf_iff_prefix,
    Bool.not_eq_true', List.contains_eq_mem, decide_eq_false_iff_not]
  constructor
  · rintro ⟨⟨⟨tail, eq⟩, plain⟩, named⟩
    rw [← eq, List.drop_left] at plain named
    obtain rfl := Option.some.inj named
    rw [String.toList_ofList] at chars ⊢
    exact ⟨plain, String.toList_injective (eq.symm.trans chars.symm)⟩
  · rintro ⟨plain, rfl⟩
    rw [chars, List.drop_left, String.ofList_toList]
    exact ⟨⟨List.prefix_append _ _, plain⟩, rfl⟩

/-- Of a folder, what stands directly in it is listed. -/
theorem map_list (f : Folder) (folder : String) :
    ((f.list folder).map fun (name, entry) => (child folder name, entry)) =
      f.entries.entries.filter fun e => (nameIn? folder e.1).isSome := by
  unfold list
  induction f.entries.entries with
  | nil => rfl
  | cons e rest ih =>
    cases named : nameIn? folder e.1 with
    | none => simpa [named] using ih
    | some name =>
      have path := (nameIn?_eq_some.1 named).2
      simp only [List.filterMap_cons, named, Option.map_some, List.map_cons, ih, ← path,
        List.filter_cons, Option.isSome_some, if_true]

/-- What is listed is what stands in the folders. -/
theorem mem_inFolders {f : Folder} {folders : List String} {path : String} {e : FolderEntry} :
    (path, e) ∈ f.inFolders folders ↔ f.get? path = some e ∧
      ∃ folder ∈ folders, ∃ name : String, '/' ∉ name.toList ∧ path = child folder name := by
  have entry : (path, e) ∈ f.entries.entries ↔ f.get? path = some e :=
    ⟨Entries.find?_of_mem f.entries.names_nodup, Entries.mem_of_find?⟩
  simp only [inFolders, List.mem_flatMap, map_list, List.mem_filter, entry,
    Option.isSome_iff_exists, nameIn?_eq_some]
  constructor
  · rintro ⟨folder, member, there, named⟩
    exact ⟨there, folder, member, named⟩
  · rintro ⟨there, folder, member, named⟩
    exact ⟨folder, member, there, named⟩

theorem mem_fileAt? {l : List (String × FolderEntry)} {path : String} :
    path ∈ l.filterMap fileAt? ↔ ∃ text, (path, .file text) ∈ l := by
  rw [List.mem_filterMap]
  constructor
  · rintro ⟨⟨p, _ | _⟩, member, eq⟩
    · exact ⟨_, Option.some.inj eq ▸ member⟩
    · exact absurd eq (by simp [fileAt?])
  · rintro ⟨text, member⟩
    exact ⟨_, member, rfl⟩

theorem mem_folderAt? {l : List (String × FolderEntry)} {path : String} :
    path ∈ l.filterMap folderAt? ↔ (path, .folder) ∈ l := by
  rw [List.mem_filterMap]
  constructor
  · rintro ⟨⟨p, _ | _⟩, member, eq⟩
    · exact absurd eq (by simp [folderAt?])
    · exact Option.some.inj eq ▸ member
  · exact fun member => ⟨_, member, rfl⟩

/-- Only files are found. -/
theorem get?_of_mem_filesFrom {f : Folder} {depth : Nat} {folders : List String} {path : String}
    (h : path ∈ f.filesFrom depth folders) : ∃ text, f.get? path = some (.file text) := by
  induction depth generalizing folders with
  | zero => exact absurd h List.not_mem_nil
  | succ depth ih =>
    rcases List.mem_append.1 h with h | h
    · obtain ⟨text, member⟩ := mem_fileAt?.1 h
      exact ⟨text, (mem_inFolders.1 member).1⟩
    · exact ih h

/-- All files in folders that are listed, and below them, are found. -/
theorem IsClosed.mem_filesFrom {f : Folder} (closed : f.IsClosed) {depth : Nat}
    {folders above rest : List String} {text : String} (filled : rest ≠ [])
    (plain : ∀ name ∈ rest, '/' ∉ name.toList) (start : Key.ofSegments above ∈ folders)
    (deep : rest.length ≤ depth)
    (there : f.get? (Key.ofSegments (above ++ rest)) = some (.file text)) :
    Key.ofSegments (above ++ rest) ∈ f.filesFrom depth folders := by
  induction rest generalizing depth folders above with
  | nil => exact absurd rfl filled
  | cons name rest ih =>
    obtain ⟨noSlash, plain⟩ := List.forall_mem_cons.1 plain
    obtain ⟨depth, rfl⟩ := Nat.exists_eq_add_one_of_ne_zero (Nat.ne_of_gt (Nat.lt_of_lt_of_le
      (Nat.succ_pos rest.length) deep))
    have step : Key.ofSegments (above ++ [name]) = child (Key.ofSegments above) name := by
      cases above with
      | nil => exact Key.ofSegments_singleton name
      | cons first others =>
        -- What stands below the folder is not in the root.
        have inside := closed.above _ _ (Key.isAbove_ofSegments (a := first :: others)
          (b := name :: rest) (by simp) (by simp)) (by rw [there]; simp)
        have named : (Key.ofSegments (first :: others)).isEmpty = false := by
          rw [← Bool.not_eq_true, String.isEmpty_iff]
          intro empty
          rw [empty, closed.root] at inside
          exact absurd inside (by simp)
        rw [child, named, Key.ofSegments_append (by simp) (by simp), Key.ofSegments_singleton]
        rfl
    have longer : above ++ name :: rest = above ++ [name] ++ rest := by simp
    rw [longer] at there ⊢
    cases rest with
    | nil =>
      rw [List.append_nil] at there ⊢
      refine List.mem_append_left _ (mem_fileAt?.2 ⟨text, mem_inFolders.2 ⟨there, ?_⟩⟩)
      exact ⟨_, start, name, noSlash, step⟩
    | cons next rest =>
      have inside := closed.above _ _ (Key.isAbove_ofSegments (a := above ++ [name])
        (b := next :: rest) (by simp) (by simp)) (by rw [there]; simp)
      have listed : Key.ofSegments (above ++ [name]) ∈
          (f.inFolders folders).filterMap folderAt? :=
        mem_folderAt?.2 (mem_inFolders.2 ⟨inside, _, start, name, noSlash, step⟩)
      exact List.mem_append_right _ (ih (by simp) plain listed (Nat.le_of_succ_le_succ deep) there)

theorem length_segments_le_depth {f : Folder} {path : String} (h : f.get? path ≠ none) :
    (Key.segments path).length ≤ f.depth := by
  have named : path ∈ f.entries.names := by
    rw [Bag.mem_names]
    exact Option.ne_none_iff_exists'.1 h
  have folds (names : List String) (n : Nat) :
      n ≤ names.foldl (fun n path => max n (Key.segments path).length) n ∧ ∀ path ∈ names,
        (Key.segments path).length ≤
          names.foldl (fun n path => max n (Key.segments path).length) n := by
    induction names generalizing n with
    | nil => simp
    | cons first names ih =>
      obtain ⟨more, others⟩ := ih (max n (Key.segments first).length)
      refine ⟨Nat.le_trans (Nat.le_max_left _ _) more, List.forall_mem_cons.2 ⟨?_, others⟩⟩
      exact Nat.le_trans (Nat.le_max_right _ _) more
  exact (folds _ 0).2 path named

/-- All files are found, and only files. -/
theorem IsClosed.mem_filePaths {f : Folder} (closed : f.IsClosed) {path : String} :
    path ∈ f.filePaths ↔ ∃ text, f.get? path = some (.file text) := by
  refine ⟨get?_of_mem_filesFrom, fun ⟨text, there⟩ => ?_⟩
  have parts : Key.ofSegments ([] ++ Key.segments path) = path := Key.ofSegments_segments path
  have found : Key.ofSegments ([] ++ Key.segments path) ∈ f.filesFrom f.depth [""] :=
    closed.mem_filesFrom (Key.segments_ne_nil path) (fun name => Key.not_mem_of_mem_segments)
      (List.mem_singleton.2 rfl) (length_segments_le_depth (by rw [there]; simp))
      (parts.symm ▸ there)
  rwa [parts] at found

/-! ## Each file is found once -/

/-- How many names a path has; that of the root has none. -/
def nesting (path : String) : Nat := if path.isEmpty then 0 else path.toList.count '/' + 1

theorem nesting_child {folder name : String} (noSlash : '/' ∉ name.toList)
    (filled : child folder name ≠ "") : nesting (child folder name) = nesting folder + 1 := by
  have chars := toList_child folder name
  have nonempty : (child folder name).isEmpty = false := by
    rw [← Bool.not_eq_true, String.isEmpty_iff]
    exact filled
  rw [nesting, nonempty, if_neg Bool.false_ne_true, nesting, chars]
  have none : name.toList.count '/' = 0 := List.count_eq_zero.2 noSlash
  cases folder.isEmpty <;> simp [none]

theorem child_inj {folder folder' name name' : String} (noSlash : '/' ∉ name.toList)
    (noSlash' : '/' ∉ name'.toList) (same : child folder name = child folder' name') :
    folder = folder' := by
  have chars := congrArg String.toList same
  rw [toList_child, toList_child] at chars
  cases empty : folder.isEmpty <;> cases empty' : folder'.isEmpty <;>
    simp only [empty, empty', if_true, if_false, Bool.false_eq_true, List.append_assoc,
      List.nil_append, List.singleton_append] at chars
  · exact String.toList_injective (List.append_cons_inj_of_last noSlash noSlash' chars).1
  · exact absurd (chars ▸ by simp) noSlash'
  · exact absurd (chars ▸ by simp) noSlash
  · rw [String.isEmpty_iff] at empty empty'
    rw [empty, empty']

section Once

variable {f : Folder} {folders : List String}

theorem nodup_inFolders (distinct : folders.Nodup) :
    ((f.inFolders folders).map (·.1)).Nodup := by
  rw [inFolders, List.map_flatMap, List.nodup_flatMap]
  refine ⟨fun folder _ => ?_, distinct.imp fun {folder folder'} apart => ?_⟩
  · rw [map_list]
    exact f.entries.names_nodup.sublist (List.filter_sublist.map _)
  · intro path here there
    have named {folder : String} (h : path ∈ ((f.list folder).map fun (name, entry) =>
        (child folder name, entry)).map (·.1)) :
        ∃ name : String, '/' ∉ name.toList ∧ path = child folder name := by
      rw [map_list] at h
      obtain ⟨e, member, rfl⟩ := List.mem_map.1 h
      obtain ⟨name, named⟩ := Option.isSome_iff_exists.1 (List.mem_filter.1 member).2
      exact ⟨name, nameIn?_eq_some.1 named⟩
    obtain ⟨name, noSlash, eq⟩ := named here
    obtain ⟨name', noSlash', eq'⟩ := named there
    exact apart (child_inj noSlash noSlash' (eq.symm.trans eq'))

theorem sublist_filterMap {l : List (String × FolderEntry)}
    {at? : String × FolderEntry → Option String} (path : ∀ e p, at? e = some p → p = e.1) :
    (l.filterMap at?).Sublist (l.map (·.1)) := by
  induction l with
  | nil => exact List.Sublist.refl _
  | cons e rest ih =>
    rw [List.filterMap_cons]
    cases found : at? e with
    | none => exact ih.cons _
    | some p => exact path e p found ▸ ih.cons_cons _

theorem sublist_fileAt? (l : List (String × FolderEntry)) :
    (l.filterMap fileAt?).Sublist (l.map (·.1)) := by
  refine sublist_filterMap ?_
  rintro ⟨path, _ | _⟩ p h
  · exact (Option.some.inj h).symm
  · exact absurd h (by simp [fileAt?])

theorem sublist_folderAt? (l : List (String × FolderEntry)) :
    (l.filterMap folderAt?).Sublist (l.map (·.1)) := by
  refine sublist_filterMap ?_
  rintro ⟨path, _ | _⟩ p h
  · exact absurd h (by simp [folderAt?])
  · exact (Option.some.inj h).symm

/-- What stands in folders of one nesting is nested by one more. -/
theorem nesting_of_mem_inFolders (root : f.get? "" = none) {n : Nat}
    (level : ∀ folder ∈ folders, nesting folder = n) {path : String}
    (h : path ∈ (f.inFolders folders).map (·.1)) : nesting path = n + 1 := by
  obtain ⟨e, member, rfl⟩ := List.mem_map.1 h
  obtain ⟨there, folder, listed, name, noSlash, eq⟩ := mem_inFolders.1 member
  have filled : e.1 ≠ "" := fun empty => absurd there (by rw [empty, root]; simp)
  rw [eq, nesting_child noSlash (eq ▸ filled), level folder listed]

theorem lt_nesting_of_mem_filesFrom (root : f.get? "" = none) {n depth : Nat}
    (level : ∀ folder ∈ folders, nesting folder = n) {path : String}
    (h : path ∈ f.filesFrom depth folders) : n < nesting path := by
  induction depth generalizing n folders with
  | zero => exact absurd h List.not_mem_nil
  | succ depth ih =>
    rcases List.mem_append.1 h with h | h
    · rw [nesting_of_mem_inFolders root level ((sublist_fileAt? _).subset h)]
      exact Nat.lt_succ_self n
    · refine Nat.lt_of_succ_lt (ih (fun folder found => ?_) h)
      exact nesting_of_mem_inFolders root level ((sublist_folderAt? _).subset found)

theorem nodup_filesFrom (root : f.get? "" = none) {n depth : Nat} (distinct : folders.Nodup)
    (level : ∀ folder ∈ folders, nesting folder = n) : (f.filesFrom depth folders).Nodup := by
  induction depth generalizing n folders with
  | zero => exact List.nodup_nil
  | succ depth ih =>
    have found : ((f.inFolders folders).map (·.1)).Nodup := nodup_inFolders distinct
    have inner : ∀ folder ∈ (f.inFolders folders).filterMap folderAt?, nesting folder = n + 1 :=
      fun folder h => nesting_of_mem_inFolders root level ((sublist_folderAt? _).subset h)
    refine List.nodup_append.2 ⟨found.sublist (sublist_fileAt? _),
      ih (found.sublist (sublist_folderAt? _)) inner, ?_⟩
    rintro path here other there rfl
    -- What is found in the inner folders is nested deeper.
    have shallow := nesting_of_mem_inFolders root level ((sublist_fileAt? _).subset here)
    have deep := lt_nesting_of_mem_filesFrom root inner there
    exact absurd shallow (Nat.ne_of_gt deep)

end Once

theorem IsClosed.nodup_filePaths {f : Folder} (closed : f.IsClosed) : f.filePaths.Nodup :=
  nodup_filesFrom (n := 0) closed.root (List.nodup_singleton _) fun folder h => by
    rw [List.mem_singleton.1 h]
    rfl

end EntityStore.Folder
