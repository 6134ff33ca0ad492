import LiveService.Files.IoError
import LiveService.Files.Path
import LiveService.Text.Bytes

/-!
A tree of files and folders, and where paths lead in it.  A path is walked folder by folder; what its last
step names need not exist.
-/

namespace LiveService

inductive Entry where
  | file (content : Bytes)
  | folder
  | sink
  deriving DecidableEq

abbrev Location := List String

inductive Access where
  | read
  | write
  | create
  deriving DecidableEq

/-- `current` is where relative paths start.  The system may refuse an access for a reason that the tree
does not show, such as a full disk. -/
structure FileSystem where
  entryAt : Location → Option Entry
  current : Location
  refusal : Access → Location → Option IoError

inductive Ending where
  | here
  | up
  | named (name : String)
  deriving DecidableEq

namespace Ending

def ofStep (step : String) : Ending :=
  if step = "." then .here else if step = ".." then .up else .named step

def place (folder : Location) : Ending → Location
  | .here => folder
  | .up => folder.dropLast
  | .named name => folder ++ [name]

end Ending

namespace FileSystem

def empty (current : Location) : FileSystem where
  entryAt location := if location <+: current then some .folder else none
  current := current
  refusal _ _ := none

def lookup (files : FileSystem) (location : Location) : Option Entry :=
  if location = [] then some .folder else files.entryAt location

def put (files : FileSystem) (location : Location) (entry : Option Entry) : FileSystem :=
  { files with entryAt := fun other => if other = location then entry else files.entryAt other }

/-- The tree of a system that nobody has used yet: the folders that lead to the current one, and the usual
ones.  What is written to `/dev/null` is gone, `/dev/full` has no space for it, and nothing can be made
under `/proc`. -/
def fresh (current : Location) : FileSystem :=
  let folders := ["dev", "etc", "home", "proc", "run", "usr", "var"].foldl
    (fun files name => files.put [name] (some .folder)) (empty current)
  { (folders.put ["dev", "null"] (some .sink)).put ["dev", "full"] (some .sink) with
    refusal := fun access place =>
      match access, place with
      | .read, _ => none
      | _, "proc" :: _ => some .notFound
      | .write, ["dev", "full"] => some .storageFull
      | _, _ => none }

def longestName : Nat := 255

def longestPath : Nat := 4095

def find (files : FileSystem) (folder : Location) (name : String) :
    Except IoError (Option Entry) :=
  if longestName < name.utf8ByteSize then .error .nameTooLong
  else .ok (files.lookup (folder ++ [name]))

def enter (files : FileSystem) (folder : Location) (step : String) : Except IoError Location :=
  match Ending.ofStep step with
  | .named name =>
    match files.find folder name with
    | .error error => .error error
    | .ok none => .error .notFound
    | .ok (some .folder) => .ok (folder ++ [name])
    | .ok (some _) => .error .notADirectory
  | ending => .ok (ending.place folder)

def walk (files : FileSystem) : Location → List String → Except IoError Location
  | folder, [] => .ok folder
  | folder, step :: rest =>
    match files.enter folder step with
    | .error error => .error error
    | .ok next => files.walk next rest

def startOf (files : FileSystem) (path : Path) : Location :=
  if path.isAbsolute then [] else files.current

def approach (files : FileSystem) (path : Path) : Except IoError (Location × Ending) :=
  let start := files.startOf path
  if path.hasNul then .error .nulInName
  else if path.text = "" || files.lookup start != some .folder then .error .notFound
  else if longestPath < path.text.utf8ByteSize then .error .nameTooLong
  else
    match files.walk start path.steps.dropLast with
    | .error error => .error error
    | .ok folder => .ok (folder, (path.steps.getLast?.map Ending.ofStep).getD .here)

def locate (files : FileSystem) (path : Path) : Except IoError Location :=
  (files.approach path).map fun (folder, ending) => ending.place folder

def entry (files : FileSystem) (path : Path) : Except IoError Entry :=
  match files.approach path with
  | .error error => .error error
  | .ok (folder, .named name) =>
    match files.find folder name with
    | .error error => .error error
    | .ok none => .error .notFound
    | .ok (some .folder) => .ok .folder
    | .ok (some entry) => if path.endsWithSlash then .error .notADirectory else .ok entry
  | .ok _ => .ok .folder

def isPresent (files : FileSystem) (path : Path) : Bool :=
  match files.entry path with
  | .ok _ => true
  | .error _ => false

def isFolder (files : FileSystem) (path : Path) : Bool :=
  match files.entry path with
  | .ok .folder => true
  | _ => false

def read (files : FileSystem) (path : Path) : Except IoError Bytes :=
  match files.entry path, files.locate path with
  | .error error, _ => .error error
  | _, .error error => .error error
  | .ok entry, .ok location =>
    match files.refusal .read location, entry with
    | some error, _ => .error error
    | none, .folder => .error .isADirectory
    | none, .sink => .ok []
    | none, .file content => .ok content

end FileSystem

end LiveService
