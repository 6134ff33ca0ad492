import LiveService.Proofs.Files.Frame
import LiveService.Service.Run

/-!
What the watcher of the file changes about a start.  It is there before the store is opened, so it needs the
folder that opening the store would make; apart from that, and from the log, nothing depends on it.
-/

namespace LiveService

namespace Journal

variable {journal : Journal}

@[simp] theorem isFixed_note (remark : Remark) : (journal.note remark).isFixed = journal.isFixed := by
  unfold note
  split <;> rfl

@[simp] theorem isFixed_noteWhen (condition : Bool) (remark : Remark) :
    (journal.noteWhen condition remark).isFixed = journal.isFixed := by
  cases condition with
  | true => exact isFixed_note remark
  | false => rfl

end Journal

theorem FileSystem.locate_of_entry {files : FileSystem} {path : Path} {entry : Entry}
    (found : files.entry path = .ok entry) : ∃ place, files.locate path = .ok place := by
  unfold FileSystem.entry at found
  cases approached : files.approach path with
  | error error =>
    rw [approached] at found
    cases found
  | ok last =>
    obtain ⟨folder, ending⟩ := last
    exact ⟨ending.place folder, locate_eq_ok_iff.mpr ⟨folder, ending, approached, rfl⟩⟩

def Service.bare (service : Service) : Service := { service with watcher := none, journal := .silent }

def Start.bare (start : Start) : Start := ⟨start.files, .silent, start.result.map Service.bare⟩

theorem Start.exists_service {start : Start} {holds : Service → Prop} [DecidablePred holds]
    (held : (start.result.toOption.any fun service => decide (holds service)) = true) :
    ∃ service, start.result = .ok service ∧ holds service := by
  cases ended : start.result with
  | error error =>
    rw [ended] at held
    cases held
  | ok service =>
    rw [ended] at held
    exact ⟨service, rfl, of_decide_eq_true held⟩

namespace Service

variable {outside : FileSystem → Surroundings} {first second : Service}

theorem bare_eq_iff : first.bare = second.bare ↔
    first.site = second.site ∧ first.signals = second.signals ∧ first.result = second.result := by
  simp [bare]

theorem conclude_bare_congr (alike : first.bare = second.bare) :
    first.conclude.bare = second.conclude.bare := by
  obtain ⟨site, signals, result⟩ := bare_eq_iff.mp alike
  unfold conclude
  rw [site, result]
  split
  · exact bare_eq_iff.mpr ⟨rfl, signals, rfl⟩
  · exact alike

theorem rest_bare_congr (alike : first.bare = second.bare) :
    (first.rest outside).bare = (second.rest outside).bare := by
  obtain ⟨site, signals, result⟩ := bare_eq_iff.mp alike
  refine conclude_bare_congr (bare_eq_iff.mpr ⟨?_, signals, result⟩)
  rw [site]

theorem started_bare_congr (alike : first.bare = second.bare) :
    Start.bare ⟨first.site.files, first.journal,
        (first.site.startResult.mapError StartupError.listener).map fun () => first⟩ =
      Start.bare ⟨second.site.files, second.journal,
        (second.site.startResult.mapError StartupError.listener).map fun () => second⟩ := by
  have site := (bare_eq_iff.mp alike).1
  simp only [Start.bare, site]
  cases second.site.startResult with
  | error error => rfl
  | ok _ =>
    have bare : Except.ok first.bare = (.ok second.bare : Except StartupError Service) := congrArg _ alike
    exact congrArg (Start.mk _ _) bare

variable (outside)

theorem listen_bare_congr (files other : FileSystem) (site : Site) (watcher another : Option FileWatcher)
    (journal journal' : Journal) :
    (listen outside files site watcher journal).bare = (listen outside other site another journal').bare := by
  unfold listen
  split
  · rfl
  · dsimp only
    split
    · rfl
    · exact started_bare_congr (rest_bare_congr rfl)

theorem setUp_bare_congr (files other : FileSystem) (site : Site) (watcher another : Option FileWatcher)
    (journal journal' : Journal) :
    (setUp outside files site watcher journal).bare = (setUp outside other site another journal').bare := by
  unfold setUp
  dsimp only
  split
  · rfl
  · split
    · rfl
    · exact listen_bare_congr outside files other _ watcher another _ _

variable (path : Path) (journal : Journal) (files : FileSystem)

theorem start_bare_eq_unwatched {watcher : FileWatcher} (opened : FileWatcher.open? files path = .ok watcher) :
    (start outside ⟨path, true⟩ journal files).bare = (start outside ⟨path, false⟩ journal files).bare := by
  simp only [start, watcher?, opened, if_true, Bool.false_eq_true, if_false, Journal.isFixed_noteWhen]
  split
  · rfl
  · exact setUp_bare_congr outside files files _ _ _ _ _

theorem start_of_unwatchable {error : NotifierError} (refused : FileWatcher.open? files path = .error error) :
    start outside ⟨path, true⟩ journal files = ⟨files, journal, .error (.notifier error)⟩ := by
  simp only [start, watcher?, refused, if_true]

theorem listen_ne_notifier (site : Site) (watcher : Option FileWatcher) (error : NotifierError) :
    (listen outside files site watcher journal).result ≠ .error (.notifier error) := by
  unfold listen
  split
  · nofun
  · dsimp only
    split
    · nofun
    · generalize Deployment.startResult _ = answer
      cases answer <;> nofun

theorem expose_ne_notifier (observability : ObservabilityConfig) (surroundings : Surroundings)
    (error : NotifierError) : observability.expose surroundings ≠ .error (.notifier error) := by
  unfold ObservabilityConfig.expose
  dsimp only
  split
  · split
    · nofun
    · split <;> nofun
  · nofun

theorem setUp_ne_notifier (site : Site) (watcher : Option FileWatcher) (error : NotifierError) :
    (setUp outside files site watcher journal).result ≠ .error (.notifier error) := by
  unfold setUp
  dsimp only
  split
  · nofun
  · split
    · rename_i exposed
      intro same
      cases same
      exact expose_ne_notifier _ _ error exposed
    · exact listen_ne_notifier outside _ files _ watcher error

theorem start_unwatched_ne_notifier (error : NotifierError) :
    (start outside ⟨path, false⟩ journal files).result ≠ .error (.notifier error) := by
  simp only [start, watcher?, Bool.false_eq_true, if_false]
  split
  · nofun
  · exact setUp_ne_notifier outside _ files _ none error

end Service

namespace FileWatcher

variable {files : FileSystem} {path : Path}

theorem open?_isOk_iff :
    (∃ watcher, open? files path = .ok watcher) ↔
      path.fileName?.isSome = true ∧ files.isPresent (folderOf path) = true := by
  cases named : path.fileName? with
  | none => simp [open?, named]
  | some name =>
    cases found : files.entry (folderOf path) with
    | error error => simp [open?, FileSystem.isPresent, named, found]
    | ok entry =>
      obtain ⟨place, located⟩ := FileSystem.locate_of_entry found
      simp [open?, FileSystem.isPresent, named, found, located]

theorem open?_of_missing {name : String} (named : path.fileName? = some name)
    (missing : files.isPresent (folderOf path) = false) :
    open? files path = .error (.unwatchable (folderOf path)) := by
  unfold FileSystem.isPresent at missing
  cases found : files.entry (folderOf path) with
  | error error => simp [open?, named, found]
  | ok entry =>
    rw [found] at missing
    cases missing

end FileWatcher

/-- A service that watches its file starts exactly as one that does not, if the path names a file in a folder
that is there: the same site is running, or the same failure is given, and the files are the same.  Without the
folder the watching service does nothing but fail, while the other one goes on to make the folder. -/
theorem Service.watched_start_is_alike_iff (outside : FileSystem → Surroundings) (path : Path)
    (journal : Journal) (files : FileSystem) :
    let watched := Service.start outside ⟨path, true⟩ journal files
    let unwatched := Service.start outside ⟨path, false⟩ journal files
    (watched.bare = unwatched.bare ↔
      path.fileName?.isSome = true ∧ files.isPresent (FileWatcher.folderOf path) = true) ∧
    (∀ name, path.fileName? = some name → files.isPresent (FileWatcher.folderOf path) = false →
      watched = ⟨files, journal, .error (.notifier (.unwatchable (FileWatcher.folderOf path)))⟩) ∧
    ∀ error, unwatched.result ≠ .error (.notifier error) := by
  intro watched unwatched
  refine ⟨?_, ?_, start_unwatched_ne_notifier outside path journal files⟩
  · rw [← FileWatcher.open?_isOk_iff]
    constructor
    · intro alike
      cases opened : FileWatcher.open? files path with
      | ok watcher => exact ⟨watcher, rfl⟩
      | error error =>
        -- The other service cannot have failed like this.
        have refused : watched = _ := start_of_unwatchable outside path journal files opened
        rw [refused] at alike
        have same : unwatched.result.map Service.bare = .error (.notifier error) :=
          (congrArg Start.result alike).symm
        cases ended : unwatched.result with
        | ok service =>
          rw [ended] at same
          cases same
        | error reason =>
          rw [ended] at same
          cases same
          exact absurd ended (start_unwatched_ne_notifier outside path journal files error)
    · rintro ⟨watcher, opened⟩
      exact start_bare_eq_unwatched outside path journal files opened
  · intro name named missing
    exact start_of_unwatchable outside path journal files (FileWatcher.open?_of_missing named missing)

theorem Service.watched_start_is_alike_iff_in_new_file :
    let outside (files : FileSystem) : Surroundings := ⟨files, fun _ => .ok [], .ok, fun _ _ => .ok ()⟩
    let files := FileSystem.fresh []
    let watched := Service.start outside ⟨⟨"etc/app.json"⟩, true⟩ .silent files
    let unwatched := Service.start outside ⟨⟨"etc/app.json"⟩, false⟩ .silent files
    watched.bare = unwatched.bare ∧
      watched.files.read ⟨"etc/app.json"⟩ = .ok (ServiceConfig.codec.encode {}) ∧
      ∃ service, watched.result = .ok service ∧ service.site.listener.state = .running := by
  intro outside files watched unwatched
  refine ⟨?_, ?_, ?_⟩
  · refine (watched_start_is_alike_iff outside ⟨"etc/app.json"⟩ .silent files).1.mpr ?_
    decide +kernel
  · simp only [watched, outside, files]
    rfl
  · refine Start.exists_service ?_
    decide +kernel

/-- A folder of the path is missing.  The service that does not watch makes it and runs, and the one that watches
does not start. -/
theorem Service.missing_folder_stops_only_watching :
    let outside (files : FileSystem) : Surroundings := ⟨files, fun _ => .ok [], .ok, fun _ _ => .ok ()⟩
    let files := FileSystem.fresh []
    let watched := Service.start outside ⟨⟨"new/app.json"⟩, true⟩ .silent files
    let unwatched := Service.start outside ⟨⟨"new/app.json"⟩, false⟩ .silent files
    watched.result = .error (.notifier (.unwatchable ⟨"new"⟩)) ∧
      watched.files.isPresent ⟨"new"⟩ = false ∧
      unwatched.files.read ⟨"new/app.json"⟩ = .ok (ServiceConfig.codec.encode {}) ∧
      ∃ service, unwatched.result = .ok service ∧ service.site.listener.state = .running := by
  intro outside files watched unwatched
  refine ⟨rfl, by decide +kernel, ?_, ?_⟩
  · simp only [unwatched, outside, files]
    rfl
  · refine Start.exists_service ?_
    decide +kernel

end LiveService
