import EntityStore.Proofs.Storage.Folder
import EntityStore.Proofs.Storage.Memory
import EntityStore.Storage.Files

set_option autoImplicit false

/-! # Where records stand in a folder tree

The file of a record has the key of the record as its path, with an ending. If no file is in the way
there (`Files.IsOpen`), a record can be written (`IsOpen.write_eq`), and removed with all below it
(`IsOpen.purge_eq`). No file of another record is in the way if the segments of all keys can be
names of files, and have no such ending themselves (`Files.isPlainKey`). -/

namespace EntityStore.Files

/-! ## Names -/

/-- Whether a segment of a key can be the name of a folder, and with each ending that of a file, and
has no such ending itself. -/
def isPlainName (s : String) : Bool :=
  Folder.isName (s ++ ".json.tmp") && !s.toList.contains '\x00' &&
    !".json".toList.isSuffixOf s.toList && !".json.tmp".toList.isSuffixOf s.toList

/-- Whether a text is a key whose segments are plain names. -/
def isPlainKey (key : String) : Bool := Key.isValid key && (Key.segments key).all isPlainName

/-- Whether a text is a key whose segments can be names of folders. -/
def isLegalKey (key : String) : Bool :=
  Key.isValid key &&
    (Key.segments key).all fun s => Folder.isName s && !s.toList.contains '\x00'

/-- Whether the name of the file of a record can have the ending of a draft. -/
def hasRoom (key : String) : Bool :=
  Folder.isName ((Key.segments key).getLastD "" ++ ".json.tmp")

/-- What is added to keys. -/
def endings : List String := ["", ".json", ".json.tmp"]

theorem plain_endings : ∀ e ∈ endings,
    '/' ∉ e.toList ∧ '\x00' ∉ e.toList ∧ e.utf8ByteSize ≤ ".json.tmp".utf8ByteSize := by
  decide

section Names

variable {key e : String}

theorem addEnding_append (init : List String) (last e : String) :
    addEnding (init ++ [last]) e = init ++ [last ++ e] := by
  rw [addEnding, List.dropLast_concat, List.getLastD_concat]

theorem exists_addEnding {path : List String} (filled : path ≠ []) (e : String) :
    ∃ init last, path = init ++ [last] ∧ addEnding path e = init ++ [last ++ e] :=
  ⟨_, _, (List.dropLast_append_getLast filled).symm, by
    rw [← addEnding_append, List.dropLast_append_getLast filled]⟩

theorem ofSegments_addEnding {path : List String} (filled : path ≠ []) (e : String) :
    Key.ofSegments (addEnding path e) = Key.ofSegments path ++ e := by
  obtain ⟨init, last, rfl, eq⟩ := exists_addEnding filled e
  rw [eq]
  cases init with
  | nil => rw [List.nil_append, List.nil_append, Key.ofSegments_singleton, Key.ofSegments_singleton]
  | cons first others =>
    rw [Key.ofSegments_append (by simp) (by simp), Key.ofSegments_append (by simp) (by simp),
      Key.ofSegments_singleton, Key.ofSegments_singleton]
    simp only [String.append_assoc]

theorem mem_addEnding {path : List String} {s : String} (filled : path ≠ [])
    (h : s ∈ addEnding path e) : s ∈ path ∨ ∃ last ∈ path, s = last ++ e := by
  obtain ⟨init, last, rfl, eq⟩ := exists_addEnding filled e
  rw [eq] at h
  rcases List.mem_append.1 h with h | h
  · exact .inl (List.mem_append_left _ h)
  · exact .inr ⟨last, by simp, List.mem_singleton.1 h⟩

/-- The path of a key with an ending. -/
theorem addEnding_segments (noSlash : '/' ∉ e.toList) (key : String) :
    addEnding (Key.segments key) e = Key.segments (key ++ e) := by
  have filled := Key.segments_ne_nil key
  have parts : ∀ s ∈ addEnding (Key.segments key) e, '/' ∉ s.toList := by
    intro s hs
    rcases mem_addEnding filled hs with hs | ⟨last, hl, rfl⟩
    · exact Key.not_mem_of_mem_segments hs
    · rw [String.toList_append, List.mem_append, not_or]
      exact ⟨Key.not_mem_of_mem_segments hl, noSlash⟩
  have text := ofSegments_addEnding filled e
  rw [Key.ofSegments_segments] at text
  rw [← text, Key.segments_ofSegments (by simp [addEnding]) parts]

theorem isAbove_append_iff {path : String} (noSlash : '/' ∉ e.toList) :
    Key.IsAbove path (key ++ e) ↔ Key.IsAbove path key := by
  constructor
  · rintro ⟨rest, eq⟩
    have chars : key.toList ++ e.toList = path.toList ++ '/' :: rest.toList := by
      rw [← String.toList_append, eq]
      simp
    rcases List.append_eq_append_iff.1 chars with ⟨between, -, ending⟩ | ⟨between, whole, ending⟩
    · exact absurd (ending ▸ by simp) noSlash
    · cases between with
      | nil =>
        rw [List.nil_append] at ending
        exact absurd (ending ▸ List.mem_cons_self) noSlash
      | cons c between =>
        obtain rfl := (List.cons.inj ending).1
        refine ⟨String.ofList between, String.toList_injective ?_⟩
        simp [whole]
  · rintro ⟨rest, rfl⟩
    exact ⟨rest ++ e, by simp only [String.append_assoc]⟩

theorem isValid_of_isPlainKey (plain : isPlainKey key = true) : Key.isValid key = true :=
  (Bool.and_eq_true _ _ ▸ plain).1

theorem isPlainKey_above {path : String} (above : Key.IsAbove path key)
    (plain : isPlainKey key = true) : isPlainKey path = true := by
  rw [isPlainKey, Bool.and_eq_true, List.all_eq_true] at plain ⊢
  refine ⟨above.isValid plain.1, fun s hs => plain.2 s ?_⟩
  obtain ⟨rest, rfl⟩ := above
  rw [Key.segments_append]
  exact List.mem_append_left _ hs

/-- A key with an ending is not plain. -/
theorem isPlainKey_append (he : e = ".json" ∨ e = ".json.tmp") (key : String) :
    isPlainKey (key ++ e) = false := by
  obtain ⟨init, last, -, eq⟩ := exists_addEnding (Key.segments_ne_nil key) e
  have noSlash : '/' ∉ e.toList := by
    rcases he with rfl | rfl <;> decide
  rw [addEnding_segments noSlash] at eq
  have suffix : e.toList.isSuffixOf (last ++ e).toList = true := by
    rw [List.isSuffixOf_iff_suffix, String.toList_append]
    exact List.suffix_append _ _
  have name : isPlainName (last ++ e) = false := by
    rcases he with rfl | rfl <;> simp only [isPlainName, suffix, Bool.not_true, Bool.and_false,
      Bool.false_and]
  simp [isPlainKey, eq, name]

end Names

/-! ## Ways to records -/

/-- A key whose paths can be given: that of its folder, and with each ending that of a file. -/
structure IsNamed (key : String) : Prop where
  valid : Key.isValid key = true
  given : ∀ e ∈ endings, Folder.isPath (Key.segments (key ++ e)) = true
  names : ∀ e ∈ endings, ∀ name ∈ Key.segments (key ++ e), Folder.isName name = true

/-- The tree is closed, and no file is in the way to where the record under a key is to be. -/
structure IsOpen (f : Folder) (key : String) : Prop where
  closed : f.IsClosed
  named : IsNamed key
  clear : ∀ above, Key.IsAbove above key → ∀ text, f.get? above ≠ some (.file text)

section Paths

variable {f : Folder} {key e : String}

theorem filePath_eq (key : String) : filePath key = Key.segments (key ++ ".json") :=
  addEnding_segments (by decide) key

theorem draftPath_eq (key : String) : draftPath key = Key.segments (key ++ ".json.tmp") :=
  addEnding_segments (by decide) key

theorem folderPath_eq (key : String) : folderPath key = Key.segments (key ++ "") := by
  rw [String.append_empty]
  rfl

theorem ofSegments_filePath (key : String) : Key.ofSegments (filePath key) = key ++ ".json" := by
  rw [filePath_eq, Key.ofSegments_segments]

theorem ofSegments_draftPath (key : String) :
    Key.ofSegments (draftPath key) = key ++ ".json.tmp" := by
  rw [draftPath_eq, Key.ofSegments_segments]

theorem isNamed_of_isLegalKey (legal : isLegalKey key = true) (room : hasRoom key = true) :
    IsNamed key := by
  rw [isLegalKey, Bool.and_eq_true, List.all_eq_true] at legal
  obtain ⟨init, last, eq, -⟩ := exists_addEnding (Key.segments_ne_nil key) ""
  have size : (last ++ ".json.tmp").utf8ByteSize ≤ 255 := by
    rw [hasRoom, eq, List.getLastD_concat] at room
    exact of_decide_eq_true room
  have parts (e : String) (he : e ∈ endings) : Key.segments (key ++ e) = init ++ [last ++ e] := by
    rw [← addEnding_segments (plain_endings e he).1, eq, addEnding_append]
  have part s (hs : s ∈ Key.segments key) : Folder.isName s = true ∧ '\x00' ∉ s.toList := by
    simpa using legal.2 s hs
  have atLast := part last (by simp [eq])
  refine ⟨legal.1, fun e he => List.all_eq_true.2 fun s hs => ?_, fun e he s hs => ?_⟩
  · rw [parts e he] at hs
    rcases List.mem_append.1 hs with hs | hs
    · simpa using (part s (by simp [eq, hs])).2
    · obtain rfl := List.mem_singleton.1 hs
      simpa using ⟨atLast.2, (plain_endings e he).2.1⟩
  · rw [parts e he] at hs
    rcases List.mem_append.1 hs with hs | hs
    · exact (part s (by simp [eq, hs])).1
    · obtain rfl := List.mem_singleton.1 hs
      have short := (plain_endings e he).2.2
      rw [String.utf8ByteSize_append] at size
      rw [Folder.isName, String.utf8ByteSize_append, decide_eq_true_eq]
      omega

/-- What stands above a key is named like it. -/
theorem IsNamed.above {path : String} (named : IsNamed key) (above : Key.IsAbove path key) :
    Folder.isPath (Key.segments path) = true ∧
      ∀ name ∈ Key.segments path, Folder.isName name = true := by
  have given := named.given "" (by decide)
  have names := named.names "" (by decide)
  obtain ⟨rest, rfl⟩ := above
  rw [String.append_empty, Key.segments_append] at given names
  exact ⟨List.all_eq_true.2 fun s hs => List.all_eq_true.1 given s (List.mem_append_left _ hs),
    fun s hs => names s (List.mem_append_left _ hs)⟩

namespace IsOpen

/-- The path of the key can be walked, with each ending. -/
theorem reaches (h : IsOpen f key) (he : e ∈ endings) : f.Reaches (Key.segments (key ++ e)) := by
  refine h.closed.reaches (Key.segments_ne_nil _) (h.named.given e he) (h.named.names e he)
    fun above way text => ?_
  rw [Key.ofSegments_segments, isAbove_append_iff (plain_endings e he).1] at way
  exact h.clear above way text

theorem reaches_filePath (h : IsOpen f key) : f.Reaches (filePath key) := by
  rw [filePath_eq]
  exact h.reaches (by decide)

theorem reaches_draftPath (h : IsOpen f key) : f.Reaches (draftPath key) := by
  rw [draftPath_eq]
  exact h.reaches (by decide)

theorem reaches_folderPath (h : IsOpen f key) : f.Reaches (folderPath key) := by
  rw [folderPath_eq]
  exact h.reaches (by decide)

/-- A walk to where a file of the key is to be finds the folder it is to be in. -/
theorem find_dropLast (h : IsOpen f key) (leads : f.LeadsTo key) :
    f.find (Key.segments key).dropLast = .folder := by
  have parts := List.dropLast_append_getLast (Key.segments_ne_nil key)
  by_cases root : (Key.segments key).dropLast = []
  · rw [root]
    rfl
  · have inner : ∀ s ∈ (Key.segments key).dropLast, '/' ∉ s.toList := fun s hs =>
      Key.not_mem_of_mem_segments (List.dropLast_subset _ hs)
    have path := Key.segments_ofSegments root inner
    generalize Key.ofSegments (Key.segments key).dropLast = parent at path
    have above : Key.IsAbove parent key := by
      rw [← Key.ofSegments_segments key, ← Key.ofSegments_segments parent, path, ← parts,
        List.dropLast_concat]
      exact Key.isAbove_ofSegments root (by simp)
    obtain ⟨given, names⟩ := h.named.above above
    have reaches : f.Reaches (Key.segments parent) := by
      refine h.closed.reaches (Key.segments_ne_nil _) given names fun other way text => ?_
      rw [Key.ofSegments_segments] at way
      exact h.clear other (way.trans above) text
    rw [Folder.Reaches, Key.ofSegments_segments, leads parent above] at reaches
    rw [← path, reaches]
    rfl

end IsOpen

end Paths

/-! ## What writing and removing leave behind -/

section Changes

variable {f : Folder} {key : String}

theorem append_ending_ne (key key' : String) : key ++ ".json" ≠ key' ++ ".json.tmp" := fun eq => by
  have chars := congrArg (fun s => s.toList.getLast?) eq
  simp [String.toList_append] at chars

theorem leadsTo_append {e : String} (noSlash : '/' ∉ e.toList) :
    f.LeadsTo (key ++ e) ↔ f.LeadsTo key :=
  forall_congr' fun _ => imp_congr_left (isAbove_append_iff noSlash)

/-- What continues a key does not stand above it. -/
theorem not_isAbove_append (key e : String) : ¬ Key.IsAbove (key ++ e) key := by
  rintro ⟨rest, eq⟩
  have length := congrArg String.length eq
  have slash : "/".length = 1 := by decide
  simp only [String.length_append] at length
  omega

namespace IsOpen

/-- A tree that leads to the key has no file in the way. -/
theorem of_leadsTo (h : IsOpen f key) {g : Folder} (closed : g.IsClosed) (leads : g.LeadsTo key) :
    IsOpen g key where
  closed := closed
  named := h.named
  clear above way text file := by
    rw [leads above way] at file
    exact absurd file (by simp)

theorem makeFolders (h : IsOpen f key) :
    ∃ g, f.makeFolders (filePath key).dropLast = (true, g) ∧ IsOpen g key ∧ g.LeadsTo key ∧
      ∀ path, ¬ Key.IsAbove path key → g.get? path = f.get? path := by
  have given := h.named.given "" (by decide)
  have names := h.named.names "" (by decide)
  rw [String.append_empty] at given names
  obtain ⟨g, makes, closed, leads, others⟩ :=
    h.closed.makeFolders_eq h.named.valid given names h.clear
  rw [filePath, addEnding, List.dropLast_concat]
  exact ⟨g, makes, h.of_leadsTo closed leads, leads, others⟩

/-- The draft of a record is a new file. -/
theorem writeDraft (h : IsOpen f key) (leads : f.LeadsTo key)
    (noDraft : f.get? (key ++ ".json.tmp") = none) (text : String) :
    ∃ g, f.writeFile (draftPath key) text = (true, g) ∧ IsOpen g key ∧ g.LeadsTo key ∧
      ∀ path, g.get? path =
        if path = key ++ ".json.tmp" then some (.file text) else f.get? path := by
  have parent : f.find (draftPath key).dropLast = .folder := by
    rw [draftPath, addEnding, List.dropLast_concat]
    exact h.find_dropLast leads
  obtain ⟨g, writes, closed, written⟩ := h.closed.writeFile_eq h.reaches_draftPath
    (by simp [ofSegments_draftPath]) parent
    (by rwa [ofSegments_draftPath, leadsTo_append (by decide)])
    (by rw [ofSegments_draftPath, noDraft]; simp) text
  rw [ofSegments_draftPath] at written
  have leads' : g.LeadsTo key := fun path above => by
    have other : path ≠ key ++ ".json.tmp" := fun eq => not_isAbove_append key _ (eq ▸ above)
    rw [written, if_neg other, leads path above]
  exact ⟨g, writes, h.of_leadsTo closed leads', leads', written⟩

/-- The draft takes the place of the file. -/
theorem renameDraft (h : IsOpen f key) (leads : f.LeadsTo key) {text : String}
    (draft : f.get? (key ++ ".json.tmp") = some (.file text))
    (place : f.get? (key ++ ".json") ≠ some .folder) :
    ∃ g, f.renameFile (draftPath key) (filePath key) = (true, g) ∧ g.IsClosed ∧
      ∀ path, g.get? path = if path = key ++ ".json" then some (.file text)
        else if path = key ++ ".json.tmp" then none else f.get? path := by
  have renames := h.closed.renameFile_eq h.reaches_draftPath (by rwa [ofSegments_draftPath])
    h.reaches_filePath (by simp [ofSegments_filePath])
    (by rwa [ofSegments_filePath, leadsTo_append (by decide)]) (by rwa [ofSegments_filePath])
  rwa [ofSegments_draftPath, ofSegments_filePath] at renames

/-- After a record was written its file is there, in its folder; all else is as it was. -/
theorem write_eq (h : IsOpen f key) (place : f.get? (key ++ ".json") ≠ some .folder)
    (noDraft : f.get? (key ++ ".json.tmp") = none) (record : Record) :
    ∃ g, write key record f = (.ok (), g) ∧ g.IsClosed ∧
      g.get? (key ++ ".json") = some (.file (Value.recordText record)) ∧ g.LeadsTo key ∧
      ∀ path, path ≠ key ++ ".json" → ¬ Key.IsAbove path key → g.get? path = f.get? path := by
  obtain ⟨made, makes, made_open, leads, others⟩ := h.makeFolders
  rw [← others _ (not_isAbove_append key _)] at noDraft
  obtain ⟨drafted, drafts, drafted_open, leads', answer⟩ :=
    made_open.writeDraft leads noDraft (Value.recordText record)
  have draft : drafted.get? (key ++ ".json.tmp") = some (.file (Value.recordText record)) := by
    rw [answer, if_pos rfl]
  have place : drafted.get? (key ++ ".json") ≠ some .folder := by
    rwa [answer, if_neg (append_ending_ne key key), others _ (not_isAbove_append key _)]
  obtain ⟨g, renames, closed, answer'⟩ := drafted_open.renameDraft leads' draft place
  -- The draft is gone, so that nothing but the file has changed since the folders were made.
  have kept (path : String) (other : path ≠ key ++ ".json") : g.get? path = made.get? path := by
    rw [answer', if_neg other, answer]
    split
    · next eq => rw [eq, noDraft]
    · rfl
  refine ⟨g, ?_, closed, ?_, fun path above => ?_, fun path other apart => ?_⟩
  · rw [write, Memory.checkKey_of_isValid h.named.valid]
    simp only [inTurn, makes, drafts, renames]
  · rw [answer', if_pos rfl]
  · rw [kept path fun eq => not_isAbove_append key _ (eq ▸ above)]
    exact leads path above
  · rw [kept path other, others path apart]

/-- After a purge there is no record under the key, and nothing below it. -/
theorem purge_eq (h : IsOpen f key) (place : f.get? (key ++ ".json") ≠ some .folder)
    (noFile : ∀ text, f.get? key ≠ some (.file text)) :
    ∃ g, purge key f = (.ok (), g) ∧ g.IsClosed ∧ ∀ path, g.get? path =
      if path = key ++ ".json" ∨ Key.isBelow path key then none else f.get? path := by
  obtain ⟨g, removes, closed, removed⟩ := h.closed.removeFile_eq h.reaches_filePath
    (by rwa [ofSegments_filePath])
  simp only [ofSegments_filePath] at removed
  have still {path text : String} (file : g.get? path = some (.file text)) :
      f.get? path = some (.file text) := by
    rw [removed] at file
    exact (Option.ite_none_left_eq_some.1 file).2
  have open' : IsOpen g key :=
    ⟨closed, h.named, fun above way text file => h.clear above way text (still file)⟩
  obtain ⟨r, clears, closed, cleared⟩ := closed.removeFolder_eq open'.reaches_folderPath
    fun text file => noFile text (still file)
  refine ⟨r, ?_, closed, fun path => ?_⟩
  · rw [purge, Memory.checkKey_of_isValid h.named.valid]
    simp only [inTurn, removes]
    rw [folderPath, clears]
  · rw [cleared, removed]
    by_cases here : path = key ++ ".json" <;> by_cases below : Key.isBelow path key = true <;>
      simp [here, below]

end IsOpen

end Changes

/-! ## Trees in which plain keys are no files -/

/-- The tree is closed, and no file is in the way to the records. -/
structure IsWalkable (f : Folder) : Prop where
  closed : f.IsClosed
  /-- What stands under a plain key is a folder. -/
  clear : ∀ key text, isPlainKey key = true → f.get? key ≠ some (.file text)

section Plain

variable {f : Folder} {key : String}

/-- There is room for a draft of a record under a plain key. -/
theorem hasRoom_of_isPlainKey (plain : isPlainKey key = true) : hasRoom key = true := by
  have filled := Key.segments_ne_nil key
  rw [isPlainKey, Bool.and_eq_true, List.all_eq_true] at plain
  have last := plain.2 _ (List.getLast_mem filled)
  simp only [isPlainName, Bool.and_eq_true] at last
  rw [hasRoom, List.getLastD_eq_getLast?, List.getLast?_eq_some_getLast filled]
  exact last.1.1.1

theorem isLegalKey_of_isPlainKey (plain : isPlainKey key = true) : isLegalKey key = true := by
  have valid := isValid_of_isPlainKey plain
  rw [isPlainKey, Bool.and_eq_true, List.all_eq_true] at plain
  rw [isLegalKey, Bool.and_eq_true, List.all_eq_true]
  refine ⟨valid, fun s hs => ?_⟩
  have name := plain.2 s hs
  simp only [isPlainName, Folder.isName, String.utf8ByteSize_append, Bool.and_eq_true,
    decide_eq_true_eq] at name
  rw [Bool.and_eq_true, Folder.isName, decide_eq_true_eq]
  exact ⟨by omega, name.1.1.2⟩

theorem isNamed_of_isPlainKey (plain : isPlainKey key = true) : IsNamed key :=
  isNamed_of_isLegalKey (isLegalKey_of_isPlainKey plain) (hasRoom_of_isPlainKey plain)

theorem ne_of_isPlainKey {path e : String} (plain : isPlainKey path = true)
    (he : e = ".json" ∨ e = ".json.tmp") (key : String) : path ≠ key ++ e := fun eq => by
  rw [eq, isPlainKey_append he] at plain
  exact absurd plain (by decide)

/-- No folder above a plain key has one of the endings. -/
theorem not_isAbove_of_isPlainKey {e : String} (plain : isPlainKey key = true)
    (he : e = ".json" ∨ e = ".json.tmp") (path : String) : ¬ Key.IsAbove (path ++ e) key :=
  fun above => ne_of_isPlainKey (isPlainKey_above above plain) he path rfl

namespace IsWalkable

theorem isOpen (walkable : IsWalkable f) (plain : isPlainKey key = true) : IsOpen f key where
  closed := walkable.closed
  named := isNamed_of_isPlainKey plain
  clear above way text := walkable.clear above text (isPlainKey_above way plain)

theorem reaches_filePath (walkable : IsWalkable f) (plain : isPlainKey key = true) :
    f.Reaches (filePath key) := (walkable.isOpen plain).reaches_filePath

/-- A record can be written under a plain key. -/
theorem write_eq (walkable : IsWalkable f) (plain : isPlainKey key = true)
    (place : f.get? (key ++ ".json") ≠ some .folder) (noDraft : f.get? (key ++ ".json.tmp") = none)
    (record : Record) : ∃ g, write key record f = (.ok (), g) ∧ g.IsClosed ∧
      g.get? (key ++ ".json") = some (.file (Value.recordText record)) ∧ g.LeadsTo key ∧
      ∀ path, path ≠ key ++ ".json" → ¬ Key.IsAbove path key → g.get? path = f.get? path :=
  (walkable.isOpen plain).write_eq place noDraft record

/-- A plain key can be purged. -/
theorem purge_eq (walkable : IsWalkable f) (plain : isPlainKey key = true)
    (place : f.get? (key ++ ".json") ≠ some .folder) :
    ∃ g, purge key f = (.ok (), g) ∧ g.IsClosed ∧ ∀ path, g.get? path =
      if path = key ++ ".json" ∨ Key.isBelow path key then none else f.get? path :=
  (walkable.isOpen plain).purge_eq place fun text => walkable.clear key text plain

end IsWalkable

end Plain

end EntityStore.Files
