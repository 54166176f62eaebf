import EntityStore.Storage.Adapter
import EntityStore.Storage.Folder

set_option autoImplicit false

/-! # Records in files

Each record is the text of a JSON object in a file: the record under the key `a/b` is in the file
`b.json` of the folder `a`. A record is written to a file of its own first, `b.json.tmp`, which
then takes the place of the other. Removing the record also removes the folder `a/b`, where the
records below it are. -/

namespace EntityStore

namespace Files

/-- The path of the folder that holds the records below a key. -/
def folderPath (key : String) : List String := Key.segments key

/-- The path with an addition to its last name. -/
def addEnding (path : List String) (ending : String) : List String :=
  path.dropLast ++ [path.getLastD "" ++ ending]

/-- The path of the file that holds the record under a key. -/
def filePath (key : String) : List String := addEnding (Key.segments key) ".json"

/-- The path of the file that a record under a key is written to first. -/
def draftPath (key : String) : List String := addEnding (Key.segments key) ".json.tmp"

def has (key : String) (f : Folder) : Except StorageError Bool := do
  Storage.checkKey key
  match f.find (filePath key) with
  | .file _ | .folder => return true
  | .absent => return false
  | .refused => throw .medium

def read (key : String) (f : Folder) : Except StorageError Record := do
  Storage.checkKey key
  match f.find (filePath key) with
  | .file text => match Value.recordOfText text with
    | .ok record => return record
    | .error fault => throw (.unreadable fault)
  | .absent => throw (.notFound key)
  | .folder | .refused => throw .medium

/-- Do one thing after another as long as none fails; the last state is kept. -/
def inTurn (f : Folder) : List (Folder → Bool × Folder) → Except StorageError Unit × Folder
  | [] => (.ok (), f)
  | step :: steps =>
    match step f with
    | (true, f) => inTurn f steps
    | (false, f) => (.error .medium, f)

/-- Store a record under a key in place of any other. -/
def write (key : String) (record : Record) (f : Folder) : Except StorageError Unit × Folder :=
  match Storage.checkKey key with
  | .error e => (.error e, f)
  | .ok () => inTurn f
    [(·.makeFolders (filePath key).dropLast),
      (·.writeFile (draftPath key) (Value.recordText record)),
      (·.renameFile (draftPath key) (filePath key))]

/-- Remove the records under and below a key. -/
def purge (key : String) (f : Folder) : Except StorageError Unit × Folder :=
  match Storage.checkKey key with
  | .error e => (.error e, f)
  | .ok () => inTurn f [(·.removeFile (filePath key)), (·.removeFolder (folderPath key))]

/-- The key of the record that the file with a path holds, if it holds one. -/
def keyOfPath? (path : String) : Option String :=
  let ending := ".json".toList
  if ending.isSuffixOf path.toList then
    some (String.ofList (path.toList.take (path.toList.length - ending.length)))
  else none

/-- The keys of the records under and below a key, or of all records if it is empty. -/
def keys (base : String) (f : Folder) : Except StorageError (List String) := do
  Storage.checkBase base
  let found := (f.filePaths.filterMap keyOfPath?).filter fun key =>
    base.isEmpty || Key.isBelow key base
  return found.mergeSort fun a b => decide (a ≤ b)

/-- The operations on a folder of records. -/
def adapter (handle : Nat) : Adapter Folder :=
  { handle, name := "file", binary := false, has, read, write, purge, keys }

/-- Put a text into a file of a given path, with the folders above it. -/
def putText (path text : String) (f : Folder) : Bool × Folder :=
  let names := Key.segments path
  match f.makeFolders names.dropLast with
  | (true, f) => f.writeFile names text
  | (false, f) => (false, f)

end Files

end EntityStore
