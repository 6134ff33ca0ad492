import LiveService.Service.Run

/-!
The program.  It runs the service on the files of the disk: it looks at them whenever it has been quiet
for long enough, lets the service react, and writes back what the service has changed.  Addresses are
granted and not opened, since the service decides what is served and where, and leaves the connections
to whoever holds the sockets.
-/

namespace LiveService.Main

def place (current : Location) (path : Path) : Location :=
  path.names.foldl (fun place name => if name == ".." then place.dropLast else place ++ [name])
    (if path.isAbsolute then [] else current)

def way (place : Location) : List Location :=
  (List.range (place.length + 1)).map fun count => place.take count

def diskText (place : Location) : String := (Path.ofNames true place).text

def diskEntry? (place : Location) : IO (Option Entry) := do
  let text := diskText place
  match ← (IO.FS.readBinFile text).toBaseIO with
  | .ok content => return some (.file content.toList)
  | .error _ =>
    match ← (IO.FS.realPath text).toBaseIO with
    | .ok _ => return some .folder
    | .error _ => return none

def diskFiles (current : Location) (paths : List Path) : IO FileSystem := do
  let places := (paths.flatMap fun path => way (place current path)).eraseDups
  let entries ← places.mapM fun place => do return (place, ← diskEntry? place)
  return { FileSystem.empty current with entryAt := fun place => (entries.lookup place).join }

/-- The paths that matter to a service: its file, what it sets aside, and the keys that the file names. -/
def concerned (current : Location) (path : Path) : IO (List Path) := do
  let own := [path, ConfigFile.rejectedPath path]
  match ← diskEntry? (place current path) with
  | some (.file content) =>
    let keys : Option TlsConfig :=
      match ServiceConfig.codec.decode content with
      | .ok config => config.listener.tls
      | .error _ => none
    return own ++ keys.toList.flatMap fun keys => [⟨keys.certPath⟩, ⟨keys.keyPath⟩]
  | _ => return own

def writeBack (current : Location) (before after : FileSystem) (path : Path) : IO Unit := do
  let place := place current path
  match after.lookup place with
  | some (.file content) =>
    if before.lookup place != after.lookup place then
      IO.FS.createDirAll (diskText place.dropLast)
      IO.FS.writeBinFile (diskText place) ⟨content.toArray⟩
  | _ => return

def outside (files : FileSystem) : Surroundings :=
  ⟨files, Host.lookUpNumeric, .ok, fun _ _ => .ok ()⟩

def printRemarks (journal : Journal) (printed : Nat) : IO Unit := do
  for remark in (journal.kept.take (journal.kept.length - printed)).reverse do
    IO.println remark.line
  (← IO.getStdout).flush

def look (current : Location) (path : Path) (start : Start) : IO (FileSystem × Start) := do
  let found ← diskFiles current (← concerned current path)
  let watched := place current path
  let differs := found.lookup watched != start.files.lookup watched
  let noticed := start.notice ⟨start.files, found, if differs then [watched] else [], []⟩
  if differs then return (found, noticed)
  return (found, noticed.along fun service => service.receive outside .quiet)

def report (current : Location) (path : Path) (found : FileSystem) (printed : Nat) (start : Start) :
    IO Unit := do
  printRemarks start.journal printed
  (← concerned current path).forM (writeBack current found start.files)

partial def follow (current : Location) (path : Path) (start : Start) : IO UInt8 := do
  if let some (.error error) := start.outcome then
    IO.eprintln ("Error: " ++ error.message)
  match start.exitCode with
  | some code => return code
  | none =>
    IO.sleep quietPeriod.toUInt32
    let (found, next) ← look current path start
    report current path found start.journal.kept.length next
    follow current path next

def run (path : Path) (watch : Bool) : IO UInt8 := do
  let current := place [] ⟨(← IO.getEnv "PWD").getD "/"⟩
  let found ← diskFiles current (← concerned current path)
  let start := Service.launch outside ⟨path, watch⟩ (← IO.getEnv "RUST_LOG") found
  report current path found 0 start
  follow current path start

end LiveService.Main

open LiveService in
def main (arguments : List String) : IO UInt32 := do
  match CommandLine.read arguments with
  | .run path watch => return (← Main.run path watch).toUInt32
  | other =>
    let (output, exit) := other.answer?.getD ("", CommandLine.exitSuccess)
    IO.print output
    return exit.toUInt32
