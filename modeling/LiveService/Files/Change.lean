import LiveService.Files.FileSystem

/-!
What operations do to a tree of files.  One that fails leaves files as they were, but it may have made
folders on its way, or emptied one.
-/

namespace LiveService.FileSystem

def write (files : FileSystem) (path : Path) (content : Bytes) : Except IoError FileSystem :=
  match files.approach path with
  | .error error => .error error
  | .ok (folder, .named name) =>
    if path.endsWithSlash then .error .isADirectory
    else
      match files.find folder name, files.refusal .write (folder ++ [name]) with
      | .error error, _ => .error error
      | .ok (some .folder), _ => .error .isADirectory
      | _, some error => .error error
      | .ok (some .sink), none => .ok files
      | .ok _, none => .ok (files.put (folder ++ [name]) (some (.file content)))
  | .ok _ => .error .isADirectory

def createFolder (files : FileSystem) (path : Path) : Except IoError FileSystem :=
  match files.approach path with
  | .error error => .error error
  | .ok (folder, .named name) =>
    match files.find folder name, files.refusal .create (folder ++ [name]) with
    | .error error, _ => .error error
    | .ok (some _), _ => .error .alreadyExists
    | .ok none, some error => .error error
    | .ok none, none => .ok (files.put (folder ++ [name]) (some .folder))
  | .ok _ => .error .alreadyExists

/-- Makes the first folder of a list, and those after it as far as they are missing; each stands inside
the next.  What has been made stays even if the rest fails. -/
def createAll (files : FileSystem) : List Path → FileSystem × Except IoError Unit
  | [] => (files, .ok ())
  | path :: above =>
    match files.createFolder path with
    | .ok files => (files, .ok ())
    | .error .notFound =>
      match files.createAll above with
      | (files, .error error) => (files, .error error)
      | (files, .ok ()) =>
        match files.createFolder path with
        | .ok files => (files, .ok ())
        | .error error => (files, if files.isFolder path then .ok () else .error error)
    | .error error => (files, if files.isFolder path then .ok () else .error error)

def createFolders (files : FileSystem) (path : Path) : FileSystem × Except IoError Unit :=
  files.createAll (path :: path.folders)

def createParents (files : FileSystem) (path : Path) : FileSystem × Except IoError Unit :=
  files.createAll path.folders

def removeFile (files : FileSystem) (path : Path) : Except IoError FileSystem :=
  match files.approach path with
  | .error error => .error error
  | .ok (folder, .named name) =>
    match files.find folder name with
    | .error error => .error error
    | .ok none => .error .notFound
    | .ok (some .folder) => .error .isADirectory
    | .ok (some _) =>
      if path.endsWithSlash then .error .notADirectory
      else .ok (files.put (folder ++ [name]) none)
  | .ok _ => .error .isADirectory

def clear (files : FileSystem) (place : Location) : FileSystem :=
  { files with
    entryAt := fun other =>
      if place <+: other ∧ place ≠ other then none else files.entryAt other }

/-- Removes a folder with all that is in it.  The content goes first; after that the path may not lead to
the folder any more, which then stays, as does one that the path does not name. -/
def removeFolder (files : FileSystem) (path : Path) : FileSystem × Except IoError Unit :=
  match files.entry path, files.locate path with
  | .error error, _ => (files, .error error)
  | _, .error error => (files, .error error)
  | .ok .folder, .ok place =>
    let cleared := files.clear place
    match cleared.approach path with
    | .error .notFound => (cleared, .ok ())
    | .error error => (cleared, .error error)
    | .ok (_, .named _) => (cleared.put place none, .ok ())
    | .ok _ => (cleared, .error .invalidArgument)
  | .ok _, .ok _ => (files, .error .notADirectory)

def rename (files : FileSystem) (source target : Path) : Except IoError FileSystem :=
  match files.approach source, files.approach target with
  | .error error, _ => .error error
  | _, .error error => .error error
  | .ok (old, .named oldName), .ok (new, .named newName) =>
    match files.find old oldName, files.find new newName with
    | .error error, _ => .error error
    | .ok none, _ => .error .notFound
    | _, .error error => .error error
    | .ok (some .folder), _ => .error .isADirectory
    | .ok (some entry), .ok there =>
      if source.endsWithSlash || target.endsWithSlash then .error .notADirectory
      else if there = some .folder then .error .isADirectory
      else .ok ((files.put (old ++ [oldName]) none).put (new ++ [newName]) (some entry))
  | _, _ => .error .busy

def draftOf (path : Path) : Path := path.withExtension "tmp"

def replace (files : FileSystem) (path : Path) (content : Bytes) :
    FileSystem × Except IoError Unit :=
  match files.write (draftOf path) content with
  | .error error => (files, .error error)
  | .ok drafted =>
    match drafted.rename (draftOf path) path with
    | .error error => (drafted, .error error)
    | .ok files => (files, .ok ())

end LiveService.FileSystem
