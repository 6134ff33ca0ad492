import LiveService.Config.App
import LiveService.Proofs.Files.Confined
import LiveService.Proofs.Store.Reading
import LiveService.Proofs.Store.Restore

/-!
What a store touches in the tree of files.  It writes to its configuration file and makes the folders that are missing on
the way there; it writes beside the file only when a reload has found no value in it; and operations that come to
nothing leave every file and folder alone.
-/

namespace LiveService

variable {Config : Type}

inductive Backing.FindsNoValue (backing : Backing Config) (files : FileSystem)
    (command : Command Config) : Prop where
  | blank (finds : backing.finding? files command = some (.ok .empty))
  | undecodable (content : Bytes) (error : Json.DocumentError)
      (finds : backing.finding? files command = some (.ok (.invalid content error)))
      (fails : backing.format.decode content = .error error)

def Answer.leavesFiles : Answer → Bool
  | .refreshed committed => !committed
  | .reloaded .unchanged | .reloaded .deferred | .reloaded .applied => true
  | _ => false

inductive Backing.LeavesFiles [BEq Config] (backing : Backing Config) (slots : Slots Config)
    (files : FileSystem) : Command Config → Prop where
  | freeze : LeavesFiles backing slots files .freeze
  | unfreeze : LeavesFiles backing slots files .unfreeze
  | refused {command : Command Config} {given : Config} {error : Json.DocumentError}
      (accepts : command.given? = some given) (fails : backing.format.roundTrip given = .error error) :
      LeavesFiles backing slots files command
  | vetoed {objectors : List (Nat × Objector Config)} {value : Config} {reason : String}
      (canceled : (backing.perform slots files (.propose objectors value)).result =
        .error (.canceled reason)) : LeavesFiles backing slots files (.propose objectors value)
  | nothingToRestore (nothing : slots.previous = none) : LeavesFiles backing slots files .restore
  | answered {command : Command Config} {answer : Answer}
      (answers : (backing.perform slots files command).result = .ok answer)
      (idle : answer.leavesFiles = true) : LeavesFiles backing slots files command

namespace Backing

open FileSystem (Confined Fate)

variable {backing : Backing Config} {slots : Slots Config} {files after : FileSystem}
  {own : List Path}

section

variable (mine : backing.path ∈ own) (slots files)

include mine

theorem writeContent_confined (value : Config) (content : Bytes) :
    Confined own backing.path.folders files (backing.writeContent slots files value content).1 := by
  have confined := ConfigFile.write_confined mine files content
  unfold writeContent
  split
  · rename_i wrote
    exact confined.of_eq wrote
  · rename_i wrote
    exact confined.of_eq wrote

theorem persist_confined (value : Config) :
    Confined own backing.path.folders files (backing.persist slots files value).1 := by
  unfold persist
  split
  · exact .refl _ _ files
  · exact writeContent_confined slots files mine value _

theorem commitChecked_confined (value : Config) (content : Bytes) :
    Confined own backing.path.folders files
      (backing.commitChecked slots files value content).files := by
  have confined := writeContent_confined slots files mine value content
  unfold commitChecked
  split
  · rename_i wrote
    exact confined.of_eq wrote
  · rename_i wrote
    exact confined.of_eq wrote

theorem set_confined (value : Config) :
    Confined own backing.path.folders files (backing.set slots files value).files := by
  unfold set
  split
  · exact .refl _ _ files
  · exact commitChecked_confined slots files mine _ _

theorem propose_confined (objectors : List (Nat × Objector Config)) (value : Config) :
    Confined own backing.path.folders files (backing.propose objectors slots files value).1.files := by
  unfold propose
  split
  · exact .refl _ _ files
  · dsimp only
    split
    · exact .refl _ _ files
    · exact commitChecked_confined slots files mine _ _

theorem restore_confined :
    Confined own backing.path.folders files (backing.restore slots files).files := by
  unfold restore
  split
  · exact .refl _ _ files
  · rename_i former _
    have confined := persist_confined slots files mine former
    split
    · rename_i wrote
      exact confined.of_eq wrote
    · rename_i wrote
      exact confined.of_eq wrote

theorem discard_confined (aside : ConfigFile.rejectedPath backing.path ∈ own) (content : Bytes) :
    Confined own backing.path.folders files (backing.discard slots files content).files := by
  unfold discard
  split
  · exact .refl _ _ files
  · rename_i quarantined setAside
    have first : Confined own backing.path.folders files quarantined :=
      FileSystem.write_confined aside setAside
    have second := persist_confined slots quarantined mine slots.current
    split
    · rename_i wrote
      exact first.trans (second.of_eq wrote)
    · rename_i wrote
      exact first.trans (second.of_eq wrote)

theorem load_confined (defaults : Config) (notifier : Except NotifierError Unit) :
    Confined own backing.path.folders files (backing.load defaults files notifier).1 := by
  unfold load
  dsimp only
  split
  · split <;> exact .refl _ _ files
  · split
    · exact .refl _ _ files
    · rename_i content _
      have confined := ConfigFile.write_confined mine files content
      split
      · rename_i wrote
        exact confined.of_eq wrote
      · rename_i wrote
        exact confined.of_eq wrote

variable [BEq Config]

theorem forceRefresh_confined :
    Confined own backing.path.folders files (backing.forceRefresh slots files).files := by
  unfold forceRefresh
  split
  · exact .refl _ _ files
  · rename_i value _
    split
    · exact .refl _ _ files
    · have confined := persist_confined slots files mine value
      split
      · rename_i wrote
        exact confined.of_eq wrote
      · rename_i wrote
        exact confined.of_eq wrote

theorem respond_confined {found : Except IoError (Reading Config)}
    (aside : found = .ok .empty ∨ (∃ content error, found = .ok (.invalid content error)) →
      ConfigFile.rejectedPath backing.path ∈ own) :
    Confined own backing.path.folders files (backing.respond slots files found).files := by
  unfold respond
  split
  · have confined := persist_confined slots files mine slots.current
    split
    · rename_i wrote
      exact confined.of_eq wrote
    · rename_i wrote
      exact confined.of_eq wrote
  · exact .refl _ _ files
  · unfold absorb
    split
    · exact .refl _ _ files
    · split
      · exact .refl _ _ files
      · exact .refl _ _ files
  · exact discard_confined slots files mine (aside (.inl rfl)) []
  · rename_i content error
    exact discard_confined slots files mine (aside (.inr ⟨content, error, rfl⟩)) content

theorem perform_confined (command : Command Config)
    (aside : backing.FindsNoValue files command → ConfigFile.rejectedPath backing.path ∈ own) :
    Confined own backing.path.folders files (backing.perform slots files command).files := by
  -- Both kinds of looks answer the same way to what they find.
  have looked {found : Except IoError (Reading Config)}
      (finds : backing.finding? files command = some found)
      (decodes : ∀ content error, found = .ok (.invalid content error) →
        backing.format.decode content = .error error) :
      Confined own backing.path.folders files (backing.respond slots files found).files := by
    apply respond_confined slots files mine
    rintro (rfl | ⟨content, error, rfl⟩)
    · exact aside (.blank finds)
    · exact aside (.undecodable content error finds (decodes content error rfl))
  cases command with
  | set value => exact set_confined slots files mine value
  | propose objectors value => exact propose_confined slots files mine objectors value
  | freeze | unfreeze => exact .refl _ _ files
  | forceRefresh => exact forceRefresh_confined slots files mine
  | restore => exact restore_confined slots files mine
  | reload => exact looked rfl fun _ _ => ConfigFile.decode_of_invalid
  | reloadSeeing seen => exact looked rfl fun _ _ => ConfigFile.decode_of_invalid

end

theorem load_of_isPresent (defaults : Config) (notifier : Except NotifierError Unit)
    (present : files.isPresent backing.path = true) :
    (backing.load defaults files notifier).1 = files := by
  unfold load
  simp only [present, if_true]
  split <;> rfl

/-- Nothing is written to the place beside the file; at most, the path itself leads through there. -/
theorem fate_beside {above : List Path} {location : Location}
    (confined : Confined [backing.path] above files after)
    (beside : after.locate (ConfigFile.rejectedPath backing.path) = .ok location) :
    Fate [] above files after location := by
  cases confined.fate location with
  | kept same => exact .kept same
  | written path content mine there _ _ =>
    rw [List.mem_singleton.mp mine] at there
    exact absurd rfl (ConfigFile.locate_rejectedPath_ne there beside)
  | made path onWay there missing now => exact .made path onWay there missing now

theorem commitChecked_ne_canceled (value : Config) (content : Bytes) (reason : String) :
    (backing.commitChecked slots files value content).result ≠ .error (.canceled reason) := by
  cases wrote : ConfigFile.write files backing.path content with
  | mk written result =>
    cases result with
    | error error => simp [commitChecked, writeContent, wrote, Outcome.quiet]
    | ok _ => simp [commitChecked, writeContent, wrote, Outcome.committed]

variable [BEq Config]

theorem Turn.files_of_answer {command : Command Config} {outcome : Outcome Config} {answer : Answer}
    (turn : backing.Turn slots files command outcome) (answered : outcome.result = .ok answer)
    (idle : answer.leavesFiles = true) : outcome.files = files := by
  cases turn with
  | failed | canceled => cases answered
  | set | refreshed | restored | regenerated | quarantined =>
    cases answered
    cases idle
  | freeze | unfreeze | idle | dropped | unchanged | deferred | applied => rfl

theorem LeavesFiles.files_eq {command : Command Config}
    (leaves : backing.LeavesFiles slots files command) :
    (backing.perform slots files command).files = files := by
  cases leaves with
  | freeze | unfreeze => rfl
  | refused accepts fails =>
    cases command with
    | set value =>
      cases accepts
      simp only [perform, set, fails, Outcome.quiet]
    | propose objectors value =>
      cases accepts
      simp only [perform, propose, fails, Outcome.quiet]
    | _ => cases accepts
  | vetoed canceled =>
    rename_i objectors value reason
    cases tripped : backing.format.roundTrip value with
    | error error => simp only [perform, propose, tripped, Outcome.quiet]
    | ok checked =>
      cases judged : ((Proposal.of checked.1 slots.current).putTo objectors).1.reason with
      | some other => simp only [perform, propose, tripped, judged]
      | none =>
        simp only [perform, propose, tripped, judged] at canceled
        exact absurd canceled (commitChecked_ne_canceled _ _ reason)
  | nothingToRestore nothing =>
    rw [perform, restore_of_none files nothing]
    rfl
  | answered answers idle => exact (backing.perform_turn slots files command).files_of_answer answers idle

theorem run_confined (backing : Backing Config) (slots : Slots Config) (files : FileSystem)
    (commands : List (Command Config)) :
    Confined [backing.path, ConfigFile.rejectedPath backing.path] backing.path.folders files
      ((History.opened slots files).run backing (commands.map .operate)).files := by
  refine History.run_keeps (fun reached => Confined _ _ files reached.files) ?_ (.refl _ _ files)
  intro reached incident member confined
  obtain ⟨command, _, rfl⟩ := List.mem_map.mp member
  exact confined.trans (perform_confined reached.slots reached.files (by simp) command fun _ => by simp)

/-- Whatever becomes of an operation, no file changes but the configuration file and the one beside it, and no folder is
made but those that were missing on the way to the file.  Beside the file something is written only if a reload has found
no value in it; otherwise a folder can come to stand there, where the path leads through it.  All stays as it was if an
operation ends without anything to write, or if the file is there when a store is opened. -/
theorem only_own_files_change (backing : Backing Config) (files : FileSystem) :
    let beside := ConfigFile.rejectedPath backing.path
    let above := backing.path.folders
    (∀ slots command,
      let outcome := backing.perform slots files command
      Confined [backing.path, beside] above files outcome.files ∧
      (backing.FindsNoValue files command ∨
        ∀ location, outcome.files.locate beside = .ok location →
          Fate [] above files outcome.files location) ∧
      (backing.LeavesFiles slots files command → outcome.files = files)) ∧
    (∀ defaults notifier,
      let opened := (backing.load defaults files notifier).1
      Confined [backing.path] above files opened ∧
      (∀ location, opened.locate beside = .ok location → Fate [] above files opened location) ∧
      (files.isPresent backing.path = true → opened = files)) ∧
    ∀ slots (commands : List (Command Config)), Confined [backing.path, beside] above files
      ((History.opened slots files).run backing (commands.map .operate)).files := by
  intro beside above
  refine ⟨?_, ?_, fun slots commands => run_confined backing slots files commands⟩
  · intro slots command outcome
    refine ⟨perform_confined slots files (by simp) command fun _ => by simp [beside], ?_,
      LeavesFiles.files_eq⟩
    by_cases finds : backing.FindsNoValue files command
    · exact .inl finds
    · right
      intro location there
      have confined : Confined [backing.path] above files outcome.files :=
        perform_confined slots files (by simp) command fun found => absurd found finds
      exact fate_beside confined there
  · intro defaults notifier opened
    have confined : Confined [backing.path] above files opened :=
      load_confined files (by simp) defaults notifier
    exact ⟨confined, fun _ => fate_beside confined, load_of_isPresent defaults notifier⟩

theorem only_own_files_change_in_new_folders :
    let backing : Backing AppConfig := ⟨AppConfig.codec.format, ⟨"etc/live/main/app.json"⟩⟩
    let files := (FileSystem.fresh []).put ["etc", "passwd"] (some (.file [0x78]))
    let slots : Slots AppConfig := .initial ⟨":9999", 1⟩
    let outcome := backing.perform slots files (.set ⟨"b:2", 2⟩)
    let objector : Objector AppConfig := ⟨fun proposal => proposal.cancel "no", fun _ => false⟩
    let vetoed := backing.perform slots files (.propose [(0, objector)] ⟨"b:2", 2⟩)
    outcome.result = .ok .done ∧
      outcome.files.read ⟨"etc/live/main/app.json"⟩ = .ok (AppConfig.codec.encode ⟨"b:2", 2⟩) ∧
      Confined [⟨"etc/live/main/app.json"⟩, ⟨"etc/live/main/app.json.badconfig"⟩]
        [⟨"etc/live/main"⟩, ⟨"etc/live"⟩, ⟨"etc"⟩] files outcome.files ∧
      vetoed.result = .error (.canceled "no") ∧ vetoed.files = files := by
  intro backing files slots outcome objector vetoed
  have canceled : vetoed.result = .error (.canceled "no") := by
    simp only [vetoed, backing, slots, files, objector]
    rfl
  have above : backing.path.folders = [⟨"etc/live/main"⟩, ⟨"etc/live"⟩, ⟨"etc"⟩] := by
    decide +kernel
  have beside : ConfigFile.rejectedPath backing.path = ⟨"etc/live/main/app.json.badconfig"⟩ := by
    decide +kernel
  have changes := (only_own_files_change backing files).1
  rw [above, beside] at changes
  refine ⟨?_, ?_, ?_, canceled, (changes slots _).2.2 (.vetoed canceled)⟩
  · simp only [outcome, backing, slots, files]
    rfl
  · decide +kernel
  · exact (changes slots (.set ⟨"b:2", 2⟩)).1

/-- The path leads through the place beside the file.  Once somebody has removed the folder there, setting a value makes
it anew, although no reload has found anything. -/
theorem folder_comes_beside_file :
    let backing : Backing AppConfig := ⟨AppConfig.codec.format, ⟨"b.badconfig/../b"⟩⟩
    let beside := ConfigFile.rejectedPath backing.path
    let start := ((FileSystem.fresh []).createFolders ⟨"b.badconfig"⟩).1
    let opened := backing.load ⟨":9999", 1⟩ start (.ok ())
    let files := (opened.1.removeFolder ⟨"b.badconfig"⟩).1
    let outcome := backing.perform (.initial ⟨":9999", 1⟩) files (.set ⟨"b:2", 2⟩)
    opened.2 = .ok (.initial ⟨":9999", 1⟩) ∧ outcome.result = .ok .done ∧
      ¬backing.FindsNoValue files (.set ⟨"b:2", 2⟩) ∧
      outcome.files.locate beside = .ok ["b.badconfig"] ∧
      files.lookup ["b.badconfig"] = none ∧ outcome.files.lookup ["b.badconfig"] = some .folder := by
  intro backing beside start opened files outcome
  refine ⟨?_, ?_, ?_, ?_, by decide +kernel, by decide +kernel⟩
  · simp only [opened, start, backing]
    rfl
  · simp only [outcome, files, opened, start, backing]
    rfl
  · rintro (finds | ⟨_, _, finds, _⟩) <;> cases finds
  · simp only [outcome, files, opened, start, beside, backing]
    rfl

end Backing

end LiveService
