import LiveService.Files.Edit
import LiveService.Store.ConfigError
import LiveService.Watch.Debounce

/-!
Watching one file.  The folder that it stands in is watched, so that a file that is replaced as a whole is
noticed too; other files of the folder do not count.
-/

namespace LiveService

/-- `folder` and `name` are where the file stands or would stand.  The watch ends when the folder is
removed, also if it is made again.  `runs` says of each callback how often it has run. -/
structure FileWatcher where
  path : Path
  folder : Location
  name : String
  isAttached : Bool
  debouncer : Debouncer
  runs : List Nat

namespace FileWatcher

def folderOf (path : Path) : Path := path.folders.head?.getD ⟨"."⟩

/-- Starts to watch; the folder has to be there, the file need not.  A file in place of the folder can be
watched as well. -/
def open? (files : FileSystem) (path : Path) : Except NotifierError FileWatcher :=
  match path.fileName? with
  | none => .error (.noFileName path)
  | some name =>
    let folder := folderOf path
    match files.entry folder, files.locate folder with
    | .ok _, .ok place => .ok ⟨path, place, name, true, .wakeUp, []⟩
    | _, _ => .error (.unwatchable folder)

def place (watcher : FileWatcher) : Location := watcher.folder ++ [watcher.name]

def subscribe (watcher : FileWatcher) : FileWatcher :=
  { watcher with runs := watcher.runs ++ [0] }

def receive (watcher : FileWatcher) (receipt : Receipt) : FileWatcher × Bool :=
  let (debouncer, run) := watcher.debouncer.next receipt
  ({ watcher with
      debouncer := debouncer
      runs := if run then watcher.runs.map (· + 1) else watcher.runs }, run)

def isConcerned (watcher : FileWatcher) (change : FileChange) : Bool :=
  change.touches watcher.place ||
    (watcher.folder.getLast? == some watcher.name && change.touches watcher.folder)

def notice (watcher : FileWatcher) (change : FileChange) : FileWatcher :=
  let woken :=
    if watcher.isAttached && watcher.isConcerned change then (watcher.receive .wake).1 else watcher
  { woken with
    isAttached := watcher.isAttached && change.keeps watcher.folder }

end FileWatcher

end LiveService
