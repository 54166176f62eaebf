import EntityStore.Bag
import EntityStore.Storage.Key

set_option autoImplicit false

/-! # A folder tree

Files and folders below a root folder, by their path: the names from the root down, with slashes
between them. An operation walks down the path. It finds nothing if a folder on the way is missing,
and it is refused where the way leads through a file or where a name cannot be one: a name has at
most 255 bytes and no zero character. Whole paths have no bound here: that a medium refuses one
beyond its `PATH_MAX` counts as a failure of the medium, which a tree of files does not explain. -/

namespace EntityStore

/-- What stands under a path. -/
inductive FolderEntry
  | file (text : String)
  | folder
deriving DecidableEq

/-- A folder with all that is below it. -/
structure Folder where
  entries : Bag FolderEntry := Bag.empty

namespace Folder

/-- What a walk down a path finds. -/
inductive Found
  | file (text : String)
  | folder
  | absent
  /-- A file on the way, or a name that cannot be one. -/
  | refused

/-- Whether a text can be the name of a file or folder. -/
def isName (s : String) : Bool := s.utf8ByteSize ≤ 255

/-- Whether a path can be given at all. -/
def isPath (path : List String) : Bool := path.all fun s => !s.toList.contains '\x00'

/-- Walk down from the folder `above`. -/
def walk (f : Folder) (above : List String) : List String → Found
  | [] => .folder
  | name :: rest =>
    if !isName name then .refused
    else
      let here := above ++ [name]
      match f.entries.get? (Key.ofSegments here), rest with
      | none, _ => .absent
      | some .folder, _ => walk f here rest
      | some (.file text), [] => .file text
      | some (.file _), _ => .refused

/-- What stands under a path. -/
def find (f : Folder) (path : List String) : Found :=
  if isPath path then f.walk [] path else .refused

/-- Make the folders on a path below the folder `above` that are missing. The second part is the
tree with the ones that were made even if one could not be. -/
def makeFrom (f : Folder) (above : List String) : List String → Bool × Folder
  | [] => (true, f)
  | name :: rest =>
    let here := above ++ [name]
    if !isName name then (false, f)
    else match f.entries.get? (Key.ofSegments here) with
      | some .folder => makeFrom f here rest
      | some (.file _) => (false, f)
      | none => makeFrom ⟨f.entries.insert (Key.ofSegments here) .folder⟩ here rest

def makeFolders (f : Folder) (path : List String) : Bool × Folder :=
  if isPath path then f.makeFrom [] path else (false, f)

/-- Write a file into a folder that is there. -/
def writeFile (f : Folder) (path : List String) (text : String) : Bool × Folder :=
  match f.find path.dropLast, f.find path with
  | .folder, .absent | .folder, .file _ =>
    (true, ⟨f.entries.insert (Key.ofSegments path) (.file text)⟩)
  | _, _ => (false, f)

/-- Give a file another path, in place of any file that has it. -/
def renameFile (f : Folder) (source target : List String) : Bool × Folder :=
  match f.find source, f.find target with
  | .file text, .absent | .file text, .file _ =>
    (true, ⟨(f.entries.erase (Key.ofSegments source)).insert (Key.ofSegments target)
      (.file text)⟩)
  | _, _ => (false, f)

/-- Remove a file, if there is one. -/
def removeFile (f : Folder) (path : List String) : Bool × Folder :=
  match f.find path with
  | .file _ => (true, ⟨f.entries.erase (Key.ofSegments path)⟩)
  | .absent => (true, f)
  | .folder | .refused => (false, f)

/-- Remove a folder and all that is below it, if there is one. -/
def removeFolder (f : Folder) (path : List String) : Bool × Folder :=
  match f.find path with
  | .folder =>
    let base := Key.ofSegments path
    (true, ⟨f.entries.filter fun p _ => !Key.isBelow p base⟩)
  | .absent => (true, f)
  | .file _ | .refused => (false, f)

/-! ## Listing -/

/-- The path of what has a name in a folder; the path of the root is empty. -/
def child (folder name : String) : String :=
  if folder.isEmpty then name else folder ++ "/" ++ name

/-- The name of what has a path, if it is in a folder. -/
def nameIn? (folder path : String) : Option String :=
  let start := if folder.isEmpty then [] else folder.toList ++ ['/']
  let name := path.toList.drop start.length
  if start.isPrefixOf path.toList && !name.contains '/' then some (String.ofList name) else none

/-- The names in a folder, and what stands there. -/
def list (f : Folder) (folder : String) : List (String × FolderEntry) :=
  f.entries.entries.filterMap fun (path, entry) => (nameIn? folder path).map (·, entry)

/-- What stands in folders, by its path. -/
def inFolders (f : Folder) (folders : List String) : List (String × FolderEntry) :=
  folders.flatMap fun folder =>
    (f.list folder).map fun (name, entry) => (child folder name, entry)

/-- The path of a file. -/
def fileAt? : String × FolderEntry → Option String
  | (path, .file _) => some path
  | (_, .folder) => none

/-- The path of a folder. -/
def folderAt? : String × FolderEntry → Option String
  | (path, .folder) => some path
  | (_, .file _) => none

/-- The paths of the files in folders and below them: the folders are listed, and then those that
were found in them, `depth` times. -/
def filesFrom (f : Folder) : Nat → List String → List String
  | 0, _ => []
  | depth + 1, folders =>
    let found := f.inFolders folders
    found.filterMap fileAt? ++ filesFrom f depth (found.filterMap folderAt?)

/-- How many names the longest path has. -/
def depth (f : Folder) : Nat :=
  f.entries.names.foldl (fun n path => max n (Key.segments path).length) 0

/-- The paths of all files, found by a walk from the root. -/
def filePaths (f : Folder) : List String := f.filesFrom f.depth [""]

end Folder

end EntityStore
