import LiveService.Proofs.Store.Effect

/-!
Operations that fail.  Whatever went wrong, and however late, the store holds what it held, nobody is told
of a change, nothing is counted, and the configuration file keeps its content.
-/

namespace LiveService

variable {Config : Type}

/-- An operation that has changed nothing, but may have made folders on the way to the file and may have
set the content of the file aside. -/
structure Outcome.IsVoid (backing : Backing Config) (slots : Slots Config) (files : FileSystem)
    (outcome : Outcome Config) : Prop where
  slots : outcome.slots = slots
  untold : ∀ event ∈ outcome.announced, event.transition? = none
  counts : outcome.counts = []
  files : FileSystem.Spares
    (fun location => files.locate (ConfigFile.rejectedPath backing.path) = .ok location)
    files outcome.files

namespace Outcome.IsVoid

variable {backing : Backing Config} {slots : Slots Config} {files after : FileSystem}
  {outcome : Outcome Config}

theorem quiet (error : ConfigError)
    (spares : FileSystem.Spares
      (fun location => files.locate (ConfigFile.rejectedPath backing.path) = .ok location)
      files after) :
    (Outcome.quiet (.error error) slots after).IsVoid backing slots files :=
  ⟨rfl, by simp [Outcome.quiet, announced], rfl, spares⟩

theorem contentAt_eq {location : Location} (void : outcome.IsVoid backing slots files)
    (located : files.locate backing.path = .ok location) :
    outcome.files.contentAt location = files.contentAt location :=
  void.files.contents location fun rejected =>
    ConfigFile.locate_rejectedPath_ne located rejected rfl

theorem read_eq {content : Bytes} (void : outcome.IsVoid backing slots files)
    (readable : files.read backing.path = .ok content) :
    outcome.files.read backing.path = .ok content :=
  void.files.read (fun _ located rejected =>
    ConfigFile.locate_rejectedPath_ne located rejected rfl) readable

end Outcome.IsVoid

namespace Backing

variable [BEq Config] {backing : Backing Config} {slots : Slots Config} {files : FileSystem}
  {command : Command Config} {error : ConfigError}

theorem Turn.void {outcome : Outcome Config} (turn : backing.Turn slots files command outcome)
    (failed : outcome.result = .error error) : outcome.IsVoid backing slots files := by
  cases turn with
  | failed error after spares => exact .quiet error spares
  | canceled => exact ⟨rfl, by simp [Outcome.announced, Event.transition?], rfl, .refl _ files⟩
  | _ => cases failed

theorem perform_void (failed : (backing.perform slots files command).result = .error error) :
    (backing.perform slots files command).IsVoid backing slots files :=
  (backing.perform_turn slots files command).void failed

/-- An operation that fails changes nothing in memory, tells of no change and counts nothing.  The
configuration file keeps its content; at most, that content was also set aside. -/
theorem failure_changes_nothing (backing : Backing Config) (slots : Slots Config)
    (files : FileSystem) (command : Command Config) (error : ConfigError)
    (failed : (backing.perform slots files command).result = .error error) :
    let outcome := backing.perform slots files command
    outcome.slots = slots ∧
      (∀ event ∈ outcome.announced, event.transition? = none) ∧
      outcome.counts = [] ∧
      (∀ content, files.read backing.path = .ok content →
        outcome.files.read backing.path = .ok content) ∧
      (∀ location, files.locate backing.path = .ok location →
        outcome.files.contentAt location = files.contentAt location) ∧
      (∀ location, files.locate (ConfigFile.rejectedPath backing.path) ≠ .ok location →
        outcome.files.contentAt location = files.contentAt location) := by
  have void := perform_void failed
  exact ⟨void.slots, void.untold, void.counts, fun _ readable => void.read_eq readable,
    fun _ located => void.contentAt_eq located, void.files.contents⟩

theorem failure_changes_nothing_after_quarantine :
    let format : Format Bytes :=
      ⟨.ok, fun content => if content = [123] then .error .malformed else .ok content⟩
    let backing : Backing Bytes := ⟨format, ⟨"a"⟩⟩
    let slots : Slots Bytes := ⟨3, [2], some [1], some [4], some [4], true⟩
    let files : FileSystem :=
      { (FileSystem.fresh []).put ["a"] (some (.file [123])) with
        refusal := fun access place =>
          if access = .write ∧ place = ["a"] then some .storageFull else none }
    let outcome := backing.perform slots files .reload
    outcome.result = .error (.persist ⟨"a"⟩ .storageFull) ∧
      outcome.files.contentAt ["a.badconfig"] = some [123] ∧
      outcome.slots = slots ∧ outcome.counts = [] ∧ outcome.files.read ⟨"a"⟩ = .ok [123] := by
  refine ⟨rfl, rfl, ?_, ?_, ?_⟩
  · exact (failure_changes_nothing _ _ _ .reload _ rfl).1
  · exact (failure_changes_nothing _ _ _ .reload _ rfl).2.2.1
  · exact (failure_changes_nothing _ _ _ .reload _ rfl).2.2.2.1 [123] rfl

end Backing

end LiveService
