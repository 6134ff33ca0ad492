import LiveService.Files.Change

/-!
Changes that somebody else makes to the files.
-/

namespace LiveService

inductive FileEdit where
  | write (path : Path) (content : Bytes)
  | remove (path : Path)
  | makeFolders (path : Path)
  | removeFolder (path : Path)
  | replace (path : Path) (content : Bytes)

namespace FileEdit

def apply (edit : FileEdit) (files : FileSystem) : FileSystem × Except IoError Unit :=
  let whole (changed : Except IoError FileSystem) : FileSystem × Except IoError Unit :=
    match changed with
    | .ok files => (files, .ok ())
    | .error error => (files, .error error)
  match edit with
  | .write path content => whole (files.write path content)
  | .remove path => whole (files.removeFile path)
  | .makeFolders path => files.createFolders path
  | .removeFolder path => files.removeFolder path
  | .replace path content => files.replace path content

/-- The places that an edit writes to.  A draft may have been written although the edit has failed. -/
def written (edit : FileEdit) (files : FileSystem) (succeeded : Bool) : List Path :=
  match edit with
  | .write path _ => if succeeded then [path] else []
  | .replace path content =>
    let draft := FileSystem.draftOf path
    if succeeded then [draft, path]
    else if (files.write draft content).toBool then [draft] else []
  | _ => []

def replaced (edit : FileEdit) (files : FileSystem) : List Path :=
  match edit with
  | .replace path _ =>
    let draft := FileSystem.draftOf path
    if (files.locate draft).toOption = (files.locate path).toOption then [] else [path]
  | _ => []

end FileEdit

/-- Files before and after something has changed them, the places that were written to, and those that
another file was moved to. -/
structure FileChange where
  before : FileSystem
  after : FileSystem
  written : List Location
  replaced : List Location

namespace FileChange

def touches (change : FileChange) (place : Location) : Bool :=
  change.written.contains place || change.before.lookup place != change.after.lookup place

def keeps (change : FileChange) (place : Location) : Bool :=
  match change.before.lookup place, change.after.lookup place with
  | some .folder, some .folder => true
  | some .folder, _ => false
  | _, some .folder => false
  | before, after => before.isSome && after.isSome && !change.replaced.contains place

end FileChange

def FileEdit.change (edit : FileEdit) (files : FileSystem) : FileChange × Except IoError Unit :=
  let (after, result) := edit.apply files
  let located (paths : List Path) : List Location :=
    paths.filterMap fun path => (files.locate path).toOption
  (⟨files, after, located (edit.written files result.toBool),
    if result.toBool then located (edit.replaced files) else []⟩, result)

end LiveService
