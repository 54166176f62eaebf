import EntityStore.Proofs.Storage.Refinement

set_option autoImplicit false

/-! # Keys whose records are in each other's way

The folder of the records below a key may have the name of the file of another record: under the key
`a.json/b` stands a record in the folder `a.json`, and in place of this folder the record under `a`
has its file. So records are not independent of each other for all keys. For a set of keys
`Files.undisturbed_iff` tells when they are: exactly if no key of the set lies below the file of
another one or below its draft, and if there is room for the ending of drafts in the name of each
file. All plain keys together are such a set (`Files.keptApart_isPlainKey`). -/

namespace EntityStore

/-- Whether a call changes records under keys of a set only. -/
def Adapter.Call.Within (keys : String → Prop) : Adapter.Call → Prop
  | .write key _ | .purge key => keys key
  | .has _ | .read _ | .keys _ => True

namespace Folder

variable {f : Folder} {above init rest : List String} {last : String}

/-- A walk to a folder can be continued there. -/
theorem walk_append (there : f.walk above init = .folder) (rest : List String) :
    f.walk above (init ++ rest) = f.walk (above ++ init) rest := by
  induction init generalizing above with
  | nil => rw [List.nil_append, List.append_nil]
  | cons name names ih =>
    unfold walk at there
    dsimp only at there
    split at there
    · simp at there
    · next isName =>
      rw [List.cons_append, walk_cons (by simpa using isName)]
      cases here : f.entries.get? (Key.ofSegments (above ++ [name])) with
      | none => simp [here] at there
      | some e =>
        cases e with
        | file text => cases names <;> simp [here] at there
        | folder =>
          have entry : f.get? (Key.ofSegments (above ++ [name])) = some .folder := here
          simp only [here] at there
          rw [entry]
          simp only
          rw [ih there, List.append_assoc, List.singleton_append]

/-- What is looked for in a folder must have a name that can be one. -/
theorem isName_of_find (folder : f.find init = .folder)
    (found : f.find (init ++ [last]) ≠ .refused) : isName last = true := by
  unfold find at folder found
  split at folder
  · split at found
    · rw [walk_append folder] at found
      cases named : isName last with
      | true => rfl
      | false =>
        rw [walk, named] at found
        exact absurd rfl found
    · exact absurd rfl found
  · simp at folder

/-- A file is written only if its name can be one. -/
theorem isName_of_writeFile {g : Folder} {text : String}
    (writes : f.writeFile (init ++ [last]) text = (true, g)) : isName last = true := by
  unfold writeFile at writes
  rw [List.dropLast_concat] at writes
  split at writes
  · next folder absent => exact isName_of_find folder (by rw [absent]; simp)
  · next folder file => exact isName_of_find folder (by rw [file]; simp)
  · simp at writes

end Folder

namespace Files

/-! ## Keys -/

/-- Whether the file of the record under a key, or its draft, is in the way to the records below
another key. -/
def obstructs (key other : String) : Bool :=
  Key.isBelow other (key ++ ".json") ||
    (Key.isBelow other (key ++ ".json.tmp") && other != key ++ ".json.tmp")

/-- Keys whose files have room, and are not in the way of each other. -/
structure KeptApart (keys : String → Prop) : Prop where
  room : ∀ k, keys k → hasRoom k = true
  clear : ∀ j k, keys j → keys k → obstructs j k = false

/-- Records under keys of a set can be written and removed in a tree. Records under other keys of
the set are found and read as before, unless a record above them is removed. -/
structure Undisturbed (keys : String → Prop) (f : Folder) : Prop where
  write : ∀ k, keys k → ∀ record, (Files.write k record f).1 = .ok () ∧
    ∀ j, keys j → j ≠ k → has j (Files.write k record f).2 = has j f ∧
      read j (Files.write k record f).2 = read j f
  purge : ∀ k, keys k → (Files.purge k f).1 = .ok () ∧
    ∀ j, keys j → Key.isBelow j k = false → has j (Files.purge k f).2 = has j f ∧
      read j (Files.purge k f).2 = read j f

section Keys

variable {j k : String}

theorem obstructs_eq_true_iff : obstructs j k = true ↔
    k = j ++ ".json" ∨ Key.IsAbove (j ++ ".json") k ∨ Key.IsAbove (j ++ ".json.tmp") k := by
  have apart : Key.isBelow k (j ++ ".json.tmp") = true ∧ k ≠ j ++ ".json.tmp" ↔
      Key.IsAbove (j ++ ".json.tmp") k := by
    rw [Key.isBelow_iff]
    constructor
    · rintro ⟨same | above, other⟩
      · exact absurd same other
      · exact above
    · rintro above
      refine ⟨.inr above, ?_⟩
      rintro rfl
      exact not_isAbove_append _ "" (by rwa [String.append_empty])
  rw [obstructs, Bool.or_eq_true, Bool.and_eq_true, bne_iff_ne, apart, Key.isBelow_iff, or_assoc]

end Keys

/-- No key has the name of the file of another one, and none lies below it or its draft. -/
theorem KeptApart.apart {keys : String → Prop} {j k : String} (h : KeptApart keys) (hj : keys j)
    (hk : keys k) : k ≠ j ++ ".json" ∧ ¬ Key.IsAbove (j ++ ".json") k ∧
      ¬ Key.IsAbove (j ++ ".json.tmp") k := by
  have clear := h.clear j k hj hk
  rwa [← Bool.not_eq_true, obstructs_eq_true_iff, not_or, not_or] at clear

/-- Plain keys are kept apart. -/
theorem keptApart_isPlainKey : KeptApart fun k => isPlainKey k = true where
  room _ hk := hasRoom_of_isPlainKey hk
  clear j k _ hk := by
    rw [← Bool.not_eq_true, obstructs_eq_true_iff]
    rintro (eq | way | way)
    · exact ne_of_isPlainKey hk (.inl rfl) j eq
    · exact not_isAbove_of_isPlainKey hk (.inl rfl) j way
    · exact not_isAbove_of_isPlainKey hk (.inr rfl) j way

/-! ## Trees with records under keys of a set -/

/-- All that stands in the tree are records under keys of a set, and folders for them. -/
structure HoldsOnly (keys : String → Prop) (f : Folder) : Prop where
  closed : f.IsClosed
  file : ∀ path text, f.get? path = some (.file text) → ∃ k, keys k ∧ path = k ++ ".json"
  folder : ∀ path, f.get? path = some .folder → ∃ k, keys k ∧ Key.IsAbove path k

/-- Records are found and read alike in trees that answer alike where their file is. -/
theorem asked_congr {f g : Folder} {j : String} (hf : f.Reaches (filePath j))
    (hg : g.Reaches (filePath j)) (same : g.get? (j ++ ".json") = f.get? (j ++ ".json")) :
    has j g = has j f ∧ read j g = read j f := by
  have found : g.find (filePath j) = f.find (filePath j) := by
    rw [hf, hg, ofSegments_filePath, same]
  unfold has read
  rw [found]
  exact ⟨rfl, rfl⟩

namespace HoldsOnly

variable {keys : String → Prop} {f : Folder} {j k : String}

theorem start (keys : String → Prop) : HoldsOnly keys {} where
  closed := ⟨rfl, fun _ _ _ there => absurd rfl there⟩
  file _ _ h := absurd h (by simp [Folder.get?])
  folder _ h := absurd h (by simp [Folder.get?])

section Apart

variable (legal : ∀ k, keys k → isLegalKey k = true) (apart : KeptApart keys)

include legal apart

theorem isOpen (h : HoldsOnly keys f) (hk : keys k) : IsOpen f k where
  closed := h.closed
  named := isNamed_of_isLegalKey (legal k hk) (apart.room k hk)
  clear above way text file := by
    obtain ⟨j, hj, rfl⟩ := h.file above text file
    exact (apart.apart hj hk).2.1 way

omit legal in
theorem place (h : HoldsOnly keys f) (hk : keys k) : f.get? (k ++ ".json") ≠ some .folder := by
  intro folder
  obtain ⟨j, hj, way⟩ := h.folder _ folder
  exact (apart.apart hk hj).2.1 way

omit legal in
theorem noDraft (h : HoldsOnly keys f) (hk : keys k) : f.get? (k ++ ".json.tmp") = none := by
  cases there : f.get? (k ++ ".json.tmp") with
  | none => rfl
  | some e =>
    cases e with
    | file text =>
      obtain ⟨j, -, eq⟩ := h.file _ _ there
      exact absurd eq.symm (append_ending_ne j k)
    | folder =>
      obtain ⟨j, hj, way⟩ := h.folder _ there
      exact absurd way (apart.apart hk hj).2.2

omit legal in
theorem noFile (h : HoldsOnly keys f) (hk : keys k) (text : String) :
    f.get? k ≠ some (.file text) := by
  intro file
  obtain ⟨j, hj, eq⟩ := h.file _ _ file
  exact (apart.apart hj hk).1 eq

/-- A record can be written, and the others are found and read as before. -/
theorem write (h : HoldsOnly keys f) (hk : keys k) (record : Record) :
    (Files.write k record f).1 = .ok () ∧ HoldsOnly keys (Files.write k record f).2 ∧
      ∀ j, keys j → j ≠ k → has j (Files.write k record f).2 = has j f ∧
        read j (Files.write k record f).2 = read j f := by
  obtain ⟨g, writes, closed, file, leads, others⟩ :=
    (h.isOpen legal apart hk).write_eq (h.place apart hk) (h.noDraft apart hk) record
  have holds : HoldsOnly keys g := by
    refine ⟨closed, fun path text there => ?_, fun path there => ?_⟩
    · by_cases own : path = k ++ ".json"
      · exact ⟨k, hk, own⟩
      · by_cases way : Key.IsAbove path k
        · rw [leads path way] at there
          exact absurd there (by simp)
        · exact h.file path text (others path own way ▸ there)
    · by_cases own : path = k ++ ".json"
      · rw [own, file] at there
        exact absurd there (by simp)
      · by_cases way : Key.IsAbove path k
        · exact ⟨k, hk, way⟩
        · exact h.folder path (others path own way ▸ there)
  rw [writes]
  refine ⟨rfl, holds, fun j hj ne => ?_⟩
  have kept := others _ (mt (String.append_left_inj _).1 ne) (apart.apart hj hk).2.1
  exact asked_congr (h.isOpen legal apart hj).reaches_filePath
    (holds.isOpen legal apart hj).reaches_filePath kept

/-- Records can be removed, and those that are not below the key are found and read as before. -/
theorem purge (h : HoldsOnly keys f) (hk : keys k) :
    (Files.purge k f).1 = .ok () ∧ HoldsOnly keys (Files.purge k f).2 ∧
      ∀ j, keys j → Key.isBelow j k = false → has j (Files.purge k f).2 = has j f ∧
        read j (Files.purge k f).2 = read j f := by
  obtain ⟨g, purges, closed, answer⟩ :=
    (h.isOpen legal apart hk).purge_eq (h.place apart hk) (h.noFile apart hk)
  have still {path : String} {e : FolderEntry} (there : g.get? path = some e) :
      f.get? path = some e := by
    rw [answer] at there
    exact (Option.ite_none_left_eq_some.1 there).2
  have holds : HoldsOnly keys g :=
    ⟨closed, fun path text there => h.file path text (still there),
      fun path there => h.folder path (still there)⟩
  rw [purges]
  refine ⟨rfl, holds, fun j hj beside => ?_⟩
  refine asked_congr (h.isOpen legal apart hj).reaches_filePath
    (holds.isOpen legal apart hj).reaches_filePath ?_
  rw [answer, if_neg]
  have ne : j ≠ k := by
    rintro rfl
    simp [Key.isBelow] at beside
  rintro (same | below)
  · exact ne ((String.append_left_inj _).1 same)
  · rcases Key.isBelow_iff.1 below with eq | way
    · exact (apart.apart hj hk).1 eq.symm
    · rw [isAbove_append_iff (by decide)] at way
      exact absurd (Key.isBelow_iff.2 (.inr way)) (by simp [beside])

theorem undisturbed (h : HoldsOnly keys f) : Undisturbed keys f where
  write _ hk record := ⟨(h.write legal apart hk record).1, (h.write legal apart hk record).2.2⟩
  purge _ hk := ⟨(h.purge legal apart hk).1, (h.purge legal apart hk).2.2⟩

/-- Calls that change records under keys of the set leave nothing else behind. -/
theorem answers (h : HoldsOnly keys f) (handle : Nat) {calls : List Adapter.Call}
    (within : ∀ call ∈ calls, call.Within keys) :
    HoldsOnly keys ((adapter handle).answers f calls).2 := by
  induction calls generalizing f with
  | nil => exact h
  | cons call rest ih =>
    obtain ⟨first, within⟩ := List.forall_mem_cons.1 within
    refine ih ?_ within
    cases call with
    | write key record => exact (h.write legal apart first record).2.1
    | purge key => exact (h.purge legal apart first).2.1
    | has key | read key | keys base => exact h

end Apart

end HoldsOnly

/-! ## Keys that are in each other's way -/

section Obstructed

variable {f : Folder} {j k : String}

/-- A record is written only if there is room for the name of its draft. -/
theorem hasRoom_of_write {record : Record} (ok : (write k record f).1 = .ok ()) :
    hasRoom k = true := by
  unfold Files.write at ok
  cases checked : Storage.checkKey k with
  | error e => simp [checked] at ok
  | ok =>
    simp only [checked, inTurn] at ok
    split at ok
    · next g made =>
      split at ok
      · next drafted => exact Folder.isName_of_writeFile drafted
      · simp at ok
    · simp at ok

/-- A record is not written where a folder is in place of its draft. -/
theorem IsOpen.write_refused (h : IsOpen f k) (folder : f.get? (k ++ ".json.tmp") = some .folder)
    (record : Record) : (write k record f).1 = .error .medium := by
  obtain ⟨g, makes, made_open, -, others⟩ := h.makeFolders
  have found : g.find (draftPath k) = .folder := by
    rw [made_open.reaches_draftPath, ofSegments_draftPath, others _ (not_isAbove_append k _),
      folder]
    rfl
  have refused (text : String) : g.writeFile (draftPath k) text = (false, g) := by
    unfold Folder.writeFile
    rw [found]
    split <;> simp_all
  rw [Files.write, Memory.checkKey_of_isValid h.named.valid]
  simp only [inTurn, makes, refused]

/-- A key is not purged if a file is in place of the folder for the records below it. -/
theorem IsOpen.purge_refused (h : IsOpen f k) (place : f.get? (k ++ ".json") ≠ some .folder)
    {text : String} (file : f.get? k = some (.file text)) :
    (purge k f).1 = .error .medium := by
  obtain ⟨g, removes, closed, removed⟩ := h.closed.removeFile_eq h.reaches_filePath
    (by rwa [ofSegments_filePath])
  simp only [ofSegments_filePath] at removed
  have still : g.get? k = some (.file text) := by
    have other : k ≠ k ++ ".json" := fun eq => by
      have length := congrArg String.length eq
      have ending : ".json".length = 5 := by decide
      rw [String.length_append] at length
      omega
    rw [removed, if_neg other, file]
  have open' : IsOpen g k := by
    refine ⟨closed, h.named, fun above way text there => h.clear above way text ?_⟩
    rw [removed] at there
    exact (Option.ite_none_left_eq_some.1 there).2
  have found : g.find (folderPath k) = .file text := by
    rw [open'.reaches_folderPath, folderPath, Key.ofSegments_segments, still]
    rfl
  have refused : g.removeFolder (folderPath k) = (false, g) := by
    unfold Folder.removeFolder
    rw [found]
  rw [Files.purge, Memory.checkKey_of_isValid h.named.valid]
  simp only [inTurn, removes, refused]

/-- Nothing is in the way in an empty tree. -/
theorem isOpen_empty (named : IsNamed k) : IsOpen {} k where
  closed := (HoldsOnly.start fun _ => True).closed
  named := named
  clear _ _ _ file := absurd file (by simp [Folder.get?])

/-- The first record that is written stands alone in its folder. -/
theorem write_empty (named : IsNamed k) (record : Record) :
    ∃ g, write k record {} = (.ok (), g) ∧ g.IsClosed ∧
      g.get? (k ++ ".json") = some (.file (Value.recordText record)) ∧ g.LeadsTo k ∧
      ∀ path, path ≠ k ++ ".json" → ¬ Key.IsAbove path k → g.get? path = none :=
  (isOpen_empty named).write_eq (by simp [Folder.get?]) rfl record

end Obstructed

section Always

variable {keys : String → Prop} (legal : ∀ k, keys k → isLegalKey k = true) {handle : Nat}
  (always : ∀ calls : List Adapter.Call, (∀ call ∈ calls, call.Within keys) →
    Undisturbed keys ((adapter handle).answers {} calls).2) {j k : String}

include always

theorem hasRoom_of_always (hk : keys k) : hasRoom k = true :=
  hasRoom_of_write (((always [] (by simp)).write k hk .empty).1)

/-- What happens after a record has been written. -/
theorem undisturbed_after_write (hk : keys k) (record : Record) {g : Folder}
    (writes : write k record {} = (.ok (), g)) : Undisturbed keys g := by
  have after := always [.write k record] (by simpa [Adapter.Call.Within] using hk)
  have reached : ((adapter handle).answers {} [.write k record]).2 = (write k record {}).2 := rfl
  rwa [reached, writes] at after

include legal

theorem isNamed_of_always (hk : keys k) : IsNamed k :=
  isNamed_of_isLegalKey (legal k hk) (hasRoom_of_always always hk)

/-- A key with the name of the file of another record could not be purged. -/
theorem ne_of_always (hj : keys j) (hk : keys k) : k ≠ j ++ ".json" := by
  rintro rfl
  obtain ⟨g, writes, closed, file, leads, others⟩ :=
    write_empty (isNamed_of_always legal always hj) .empty
  have leads' : g.LeadsTo (j ++ ".json") := (leadsTo_append (by decide)).2 leads
  have way : IsOpen g (j ++ ".json") :=
    (isOpen_empty (isNamed_of_always legal always hk)).of_leadsTo closed leads'
  have place : g.get? (j ++ ".json" ++ ".json") ≠ some .folder := by
    rw [String.append_assoc, others _ ?_ (not_isAbove_append j _)]
    · simp
    · intro eq
      rw [String.append_right_inj] at eq
      exact absurd eq (by decide)
  have purges := ((undisturbed_after_write always hj .empty writes).purge _ hk).1
  rw [way.purge_refused place file] at purges
  simp at purges

/-- A folder in place of the file of another record would be taken for it. -/
theorem not_isAbove_file_of_always (hj : keys j) (hk : keys k) :
    ¬ Key.IsAbove (j ++ ".json") k := by
  intro way
  have named := isNamed_of_always legal always hj
  obtain ⟨g, writes, closed, -, leads, -⟩ :=
    write_empty (isNamed_of_always legal always hk) .empty
  have above : g.LeadsTo j := fun path h => leads path
    (((isAbove_append_iff (by decide)).2 h).trans way)
  have before : has j {} = .ok false := by
    have nothing := (isOpen_empty named).reaches_filePath
    unfold has
    rw [Memory.checkKey_of_isValid named.valid, nothing]
    rfl
  have after : has j g = .ok true := by
    have folder := ((isOpen_empty named).of_leadsTo closed above).reaches_filePath
    rw [Folder.Reaches, ofSegments_filePath, leads _ way] at folder
    unfold has
    rw [Memory.checkKey_of_isValid named.valid, folder]
    rfl
  have ne : j ≠ k := by
    rintro rfl
    exact not_isAbove_append j _ way
  have same := (((always [] (by simp)).write k hk .empty).2 j hj ne).1
  have reached : ((adapter handle).answers {} []).2 = {} := rfl
  rw [reached, writes, before, after] at same
  exact absurd same (by simp)

/-- A folder in place of the draft of another record would keep it from being written. -/
theorem not_isAbove_draft_of_always (hj : keys j) (hk : keys k) :
    ¬ Key.IsAbove (j ++ ".json.tmp") k := by
  intro way
  obtain ⟨g, writes, closed, -, leads, -⟩ :=
    write_empty (isNamed_of_always legal always hk) .empty
  have above : g.LeadsTo j := fun path h => leads path
    (((isAbove_append_iff (by decide)).2 h).trans way)
  have opened := (isOpen_empty (isNamed_of_always legal always hj)).of_leadsTo closed above
  have written := ((undisturbed_after_write always hk .empty writes).write j hj .empty).1
  rw [opened.write_refused (leads _ way)] at written
  simp at written

end Always

/-- Records under legal keys of a set are undisturbed by each other in all trees that are reached by
changes under these keys, exactly if the keys are kept apart. -/
theorem undisturbed_iff (handle : Nat) (keys : String → Prop)
    (legal : ∀ k, keys k → isLegalKey k = true) :
    (∀ calls : List Adapter.Call, (∀ call ∈ calls, call.Within keys) →
      Undisturbed keys ((adapter handle).answers {} calls).2) ↔ KeptApart keys := by
  constructor
  · intro always
    refine ⟨fun k hk => hasRoom_of_always always hk, fun j k hj hk => ?_⟩
    rw [← Bool.not_eq_true, obstructs_eq_true_iff]
    rintro (eq | way | way)
    · exact ne_of_always legal always hj hk eq
    · exact not_isAbove_file_of_always legal always hj hk way
    · exact not_isAbove_draft_of_always legal always hj hk way
  · intro apart calls within
    exact ((HoldsOnly.start keys).answers legal apart handle within).undisturbed legal apart

/-- A record with a text. -/
def labelled : Record := .ofList [("label", .string "glass")]

/-- Keys that begin alike, but keep apart. -/
def depotKeys : List String :=
  ["depot", "depot/shelf/box", "depot.jsonl", "depot.json.bak/box"]

/-- Records are written under some of these keys, and one is removed. -/
def depotCalls : List Adapter.Call :=
  [.write "depot" labelled, .write "depot.json.bak/box" labelled, .purge "depot",
    .write "depot/shelf/box" .empty]

/-- Another record does not bring the removed one back, and the others stay. -/
theorem undisturbed_iff_depots :
    (∀ k ∈ depotKeys, isLegalKey k = true) ∧
      Undisturbed (· ∈ depotKeys) ((adapter 0).answers {} depotCalls).2 ∧
      (has "depot" ((adapter 0).answers {} depotCalls).2).toOption = some false ∧
      (has "depot"
        (write "depot.jsonl" labelled ((adapter 0).answers {} depotCalls).2).2).toOption =
        some false := by
  have legal : ∀ k ∈ depotKeys, isLegalKey k = true := by decide +kernel
  have apart : KeptApart (· ∈ depotKeys) :=
    ⟨by decide +kernel, fun j k hj hk =>
      (by decide +kernel : ∀ j ∈ depotKeys, ∀ k ∈ depotKeys, obstructs j k = false) j hj k hk⟩
  have within : ∀ call ∈ depotCalls, call.Within (· ∈ depotKeys) := by
    simp [depotCalls, depotKeys, Adapter.Call.Within]
  have undisturbed := (undisturbed_iff 0 (· ∈ depotKeys) legal).2 apart depotCalls within
  have removed : (has "depot" ((adapter 0).answers {} depotCalls).2).toOption = some false := by
    decide +kernel
  refine ⟨legal, undisturbed, removed, ?_⟩
  rw [((undisturbed.write "depot.jsonl" (by decide) labelled).2 "depot" (by decide) (by decide)).1]
  exact removed

/-- Not all legal keys are kept apart: a record under `a.json/b` makes it seem that there is one
under `a`. -/
theorem legal_keys_disturb :
    (isLegalKey "a" = true ∧ isLegalKey "a.json/b" = true) ∧
      (has "a" {}).toOption = some false ∧ (write "a.json/b" labelled {}).1.isOk = true ∧
      (has "a" (write "a.json/b" labelled {}).2).toOption = some true ∧
      ¬ ∀ calls : List Adapter.Call, (∀ call ∈ calls, call.Within fun k => isLegalKey k = true) →
        Undisturbed (fun k => isLegalKey k = true) ((adapter 0).answers {} calls).2 := by
  have legal : isLegalKey "a" = true ∧ isLegalKey "a.json/b" = true := by decide +kernel
  have before : (has "a" {}).toOption = some false := by decide +kernel
  have after : (has "a" (write "a.json/b" labelled {}).2).toOption = some true := by decide +kernel
  refine ⟨legal, before, by decide +kernel, after, fun always => ?_⟩
  have undisturbed : Undisturbed (fun k => isLegalKey k = true) {} := always [] (by simp)
  have same := ((undisturbed.write "a.json/b" legal.2 labelled).2 "a" legal.1 (by decide)).1
  rw [same, before] at after
  exact absurd after (by decide)

end Files

end EntityStore
