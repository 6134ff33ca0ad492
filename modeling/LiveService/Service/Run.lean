import LiveService.Service.CommandLine
import LiveService.Service.Remarks
import LiveService.Service.Signal
import LiveService.Service.StartupError
import LiveService.Watch.FileWatcher

/-!
The service as a whole.  It starts or fails to; while it runs it hears of signals, of changes of its file
and of a request to shut down; it ends when its listener has ended.
-/

namespace LiveService

structure Options where
  path : Path
  watch : Bool

structure Service where
  site : Site
  watcher : Option FileWatcher
  signals : SignalLoop
  journal : Journal
  result : Option (Except StartupError Unit)

structure Start where
  files : FileSystem
  journal : Journal
  result : Except StartupError Service

def ObservabilityConfig.expose (observability : ObservabilityConfig) (surroundings : Surroundings) :
    Except StartupError Unit :=
  let address := observability.metricsAddress
  if observability.metricsEnabled then
    match SocketAddress.ofLiteral? address with
    | none => .error (.metrics address .notAnAddress)
    | some literal =>
      match surroundings.bind literal with
      | .error error => .error (.metrics address (.refused error))
      | .ok _ => .ok ()
  else .ok ()

namespace Service

variable (outside : FileSystem → Surroundings)

def conclude (service : Service) : Service :=
  match service.result, service.site.listener.completion with
  | none, .resolved outcome =>
    { service with
      journal := service.journal.noteWhen outcome.isOk .finished
      result := some (outcome.mapError .listener) }
  | _, _ => service

def rest (service : Service) : Service :=
  let trail := service.site.trail (Site.environment outside)
  ({ service with
      site := trail.getLastD service.site
      journal := service.journal.noteTrail service.site trail }).conclude

/-- The watcher hears of what the service itself has done to the files. -/
def noticeOwn (before : FileSystem) (service : Service) : Service :=
  let change : FileChange := ⟨before, service.site.files, [], []⟩
  { service with watcher := service.watcher.map fun watcher => watcher.notice change }

def watcher? (options : Options) (files : FileSystem) :
    Except StartupError (Option FileWatcher) :=
  if options.watch then
    match FileWatcher.open? files options.path with
    | .error error => .error (.notifier error)
    | .ok watcher => .ok (some watcher)
  else .ok none

def listen (files : FileSystem) (site : Site) (watcher : Option FileWatcher)
    (journal : Journal) : Start :=
  match site.build (Site.environment outside) with
  | (_, .error error) => ⟨site.files, journal, .error (.listener error)⟩
  | (built, .ok ()) =>
    let config := built.store.slots.current
    let journal := journal.note (.dryRunPassed built.listener.name config.listener.bindAddress)
    match Deployment.start built with
    | .error error => ⟨site.files, journal, .error (.listener error)⟩
    | .ok started =>
      let rested := (Service.mk started watcher .start journal none).rest outside
      let service := rested.noticeOwn files
      ⟨service.site.files, service.journal,
        (service.site.startResult.mapError .listener).map fun () => service⟩

def setUp (files : FileSystem) (site : Site) (watcher : Option FileWatcher) (journal : Journal) :
    Start :=
  let config := site.store.slots.current
  match site.adopt? config with
  | none => ⟨site.files, journal, .error .tornFilter⟩
  | some applied =>
    let journal := journal.noteSettings site.settings applied.settings
    match config.observability.expose (outside site.files) with
    | .error error => ⟨site.files, journal, .error error⟩
    | .ok () =>
      let journal :=
        journal.noteWhen config.observability.metricsEnabled
          (.metricsEnabled config.observability.metricsAddress)
      listen outside files applied.followModified.followRestored watcher journal

def start (options : Options) (journal : Journal) (files : FileSystem) : Start :=
  match watcher? options files with
  | .error error => ⟨files, journal, .error error⟩
  | .ok watcher =>
    let path := options.path.text
    let journal := journal.noteWhen watcher.isSome (.watcherStarted path)
    match Site.open? options.path (!journal.isFixed) files with
    | (opened, .error error) => ⟨opened, journal, .error (.store error)⟩
    | (_, .ok site) =>
      let listener := site.store.slots.current.listener
      let watch := if options.watch then "true" else "false"
      let journal := journal.noteWhen (!files.isPresent options.path) (.storeCreated path)
      setUp outside files site watcher
        ((journal.note (.storeLoaded path)).note
          (.serviceLoaded path listener.name listener.bindAddress watch))

def launch (options : Options) (logFilter : Option String) (files : FileSystem) : Start :=
  match Journal.start? logFilter with
  | none => ⟨files, .silent, .error .tornFilter⟩
  | some journal => start outside options (journal.note .starting) files

def reload (service : Service) : Service :=
  let (site, result) := service.site.operate .reload
  let counted := service.journal.noteStep service.site site
  let journal :=
    match result with
    | .ok (.reloaded .regenerated) => counted.note (.regenerated (Site.pathText site))
    | .ok _ => counted
    | .error error => counted.note (.reloadFailed error.message)
  (({ service with site := site, journal := journal }).rest outside).noticeOwn service.site.files

def shutDown (service : Service) : Service :=
  if service.result.isSome then service
  else
    ({ service with
        site := service.site.askToStop
        journal := service.journal.note .shutdownRequested }).rest outside

def receive (service : Service) (receipt : Receipt) : Service :=
  match service.result, service.watcher with
  | none, some watcher =>
    let (watcher, run) := watcher.receive receipt
    let service := { service with watcher := some watcher }
    if run then
      ({ service with journal := service.journal.note .changeDetected }).reload outside
    else service
  | _, _ => service

/-- A hang-up reads the file again, by way of the watcher if there is one. -/
def signal (service : Service) (signal : Signal) : Service :=
  if service.result.isSome then service
  else
    let service :=
      { service with
        signals := service.signals.receive signal
        journal := service.journal.note (.signalReceived signal.word) }
    match signal with
    | .hangUp =>
      if service.watcher.isSome then service.receive outside .wake else service.reload outside
    | _ => service.shutDown outside

def notice (service : Service) (change : FileChange) : Service :=
  { service with
    site := { service.site with files := change.after }
    watcher := service.watcher.map fun watcher => watcher.notice change }

end Service

namespace Start

def along (start : Start) (change : Service → Service) : Start :=
  match start.result with
  | .error _ => start
  | .ok service =>
    let service := change service
    ⟨service.site.files, service.journal, .ok service⟩

def outcome (start : Start) : Option (Except StartupError Unit) :=
  match start.result with
  | .error error => some (.error error)
  | .ok service => service.result

def exitCode (start : Start) : Option UInt8 :=
  start.outcome.map fun
    | .ok () => CommandLine.exitSuccess
    | .error .tornFilter => CommandLine.exitAbandoned
    | .error _ => CommandLine.exitFailure

def notice (start : Start) (change : FileChange) : Start :=
  match start.result with
  | .error _ => { start with files := change.after }
  | .ok _ => start.along fun service => service.notice change

end Start

end LiveService
