import LiveService.Proofs.Store.ConfigFile
import LiveService.Store.Operations

/-!
All that an operation can come to.  The branches of the operations are followed here once; what they keep,
announce and write is then read off the cases of `Turn`.
-/

namespace LiveService

variable {Config : Type}

def Command.given? : Command Config → Option Config
  | .set value | .propose _ value => some value
  | _ => none

def Backing.finding? (backing : Backing Config) (files : FileSystem) :
    Command Config → Option (Except IoError (Reading Config))
  | .reload => some (ConfigFile.read backing.format files backing.path)
  | .reloadSeeing seen => some (ConfigFile.readChanging backing.format seen)
  | _ => none

namespace Backing

def Saves (backing : Backing Config) (value : Config) (files written : FileSystem) : Prop :=
  ∃ content, backing.format.encode value = .ok content ∧
    ConfigFile.write files backing.path content = (written, .ok ())

def SparesFile (backing : Backing Config) (files after : FileSystem) : Prop :=
  FileSystem.Spares (fun place => files.locate (ConfigFile.rejectedPath backing.path) = .ok place)
    files after

/-- What an operation can leave behind. -/
inductive Turn [BEq Config] (backing : Backing Config) (slots : Slots Config) (files : FileSystem) :
    Command Config → Outcome Config → Prop where
  | failed {command : Command Config} (error : ConfigError) (after : FileSystem)
      (spares : backing.SparesFile files after) :
      Turn backing slots files command (.quiet (.error error) slots after)
  | canceled (objectors : List (Nat × Objector Config)) (value : Config) (reason : String) :
      Turn backing slots files (.propose objectors value)
        ⟨.error (.canceled reason), slots, files, [.canceled reason], [], []⟩
  | set {command : Command Config} {given value : Config} {content : Bytes} {written : FileSystem}
      (accepts : command.given? = some given)
      (tripped : backing.format.roundTrip given = .ok (value, content))
      (wrote : ConfigFile.write files backing.path content = (written, .ok ())) :
      Turn backing slots files command
        (.committed .done { slots with seen := some value, held := none } written value .api)
  | freeze :
      Turn backing slots files .freeze (.quiet (.ok .done) { slots with frozen := true } files)
  | unfreeze :
      Turn backing slots files .unfreeze (.quiet (.ok .done) { slots with frozen := false } files)
  | idle (nothing : slots.held = none) :
      Turn backing slots files .forceRefresh (.quiet (.ok (.refreshed false)) slots files)
  | dropped {value : Config} (held : slots.held = some value)
      (same : (value == slots.current) = true) :
      Turn backing slots files .forceRefresh
        (.quiet (.ok (.refreshed false)) { slots with held := none } files)
  | refreshed {value : Config} {written : FileSystem} (held : slots.held = some value)
      (different : (value == slots.current) = false) (saves : backing.Saves value files written) :
      Turn backing slots files .forceRefresh
        (.committed (.refreshed true) { slots with seen := some value, held := none } written value
          .refresh)
  | restored {former : Config} {written : FileSystem} (there : slots.previous = some former)
      (saves : backing.Saves former files written) :
      Turn backing slots files .restore
        ⟨.ok .done, { slots with seen := some former }.rollBack former, written, [],
          [.restored (slots.version + 1) former slots.current], [.restore]⟩
  | unchanged {command : Command Config} {value : Config}
      (finds : backing.finding? files command = some (.ok (.parsed value)))
      (same : (value == slots.current) = true) :
      Turn backing slots files command
        (.quiet (.ok (.reloaded .unchanged)) { slots with seen := some value, held := none } files)
  | deferred {command : Command Config} {value : Config}
      (finds : backing.finding? files command = some (.ok (.parsed value)))
      (different : (value == slots.current) = false) (frozen : slots.frozen = true) :
      Turn backing slots files command
        (.quiet (.ok (.reloaded .deferred)) { slots with seen := some value, held := some value } files)
  | applied {command : Command Config} {value : Config}
      (finds : backing.finding? files command = some (.ok (.parsed value)))
      (different : (value == slots.current) = false) (free : slots.frozen = false) :
      Turn backing slots files command
        (.committed (.reloaded .applied) { slots with seen := some value, held := none } files value
          .file)
  | regenerated {command : Command Config} {written : FileSystem}
      (finds : backing.finding? files command = some (.error .notFound))
      (saves : backing.Saves slots.current files written) :
      Turn backing slots files command
        (.quiet (.ok (.reloaded .regenerated)) { slots with seen := some slots.current } written)
  | quarantined {command : Command Config} {content : Bytes} {aside written : FileSystem}
      (finds : backing.finding? files command = some (.ok .empty) ∧ content = [] ∨
        ∃ error, backing.finding? files command = some (.ok (.invalid content error)))
      (setAside : ConfigFile.quarantine files backing.path content = .ok aside)
      (saves : backing.Saves slots.current aside written) :
      Turn backing slots files command
        ⟨.ok (.reloaded .quarantined), { slots with seen := some slots.current }, written, [], [],
          [.quarantine]⟩

section

variable (backing : Backing Config) (slots : Slots Config) (files : FileSystem)

theorem writeContent_cases (value : Config) (content : Bytes) :
    (∃ error after, backing.writeContent slots files value content = (after, .error error) ∧
        FileSystem.Spares FileSystem.nowhere files after) ∨
      ∃ written, ConfigFile.write files backing.path content = (written, .ok ()) ∧
        backing.writeContent slots files value content =
          (written, .ok { slots with seen := some value }) := by
  cases wrote : ConfigFile.write files backing.path content with
  | mk written result =>
    cases result with
    | error error =>
      refine .inl ⟨.persist backing.path error, written, ?_, ConfigFile.write_error_spares wrote⟩
      simp only [writeContent, wrote]
    | ok _ =>
      refine .inr ⟨written, rfl, ?_⟩
      simp only [writeContent, wrote]

theorem persist_cases (value : Config) :
    (∃ error after, backing.persist slots files value = (after, .error error) ∧
        FileSystem.Spares FileSystem.nowhere files after) ∨
      ∃ written, backing.Saves value files written ∧
        backing.persist slots files value = (written, .ok { slots with seen := some value }) := by
  cases encoded : backing.format.encode value with
  | error error =>
    refine .inl ⟨.serialization error, files, ?_, .refl _ files⟩
    simp only [persist, encoded]
  | ok content =>
    simp only [persist, encoded]
    rcases backing.writeContent_cases slots files value content with refused | ⟨written, wrote, done⟩
    · exact .inl refused
    · exact .inr ⟨written, ⟨content, encoded, wrote⟩, done⟩

variable [BEq Config]

theorem commitChecked_turn {command : Command Config} {given value : Config} {content : Bytes}
    (accepts : command.given? = some given)
    (tripped : backing.format.roundTrip given = .ok (value, content)) :
    backing.Turn slots files command (backing.commitChecked slots files value content) := by
  unfold commitChecked
  rcases backing.writeContent_cases slots files value content with
    ⟨error, after, refused, spares⟩ | ⟨written, wrote, done⟩
  · rw [refused]
    exact .failed error after spares.widen
  · rw [done]
    exact .set accepts tripped wrote

theorem set_turn (value : Config) :
    backing.Turn slots files (.set value) (backing.set slots files value) := by
  unfold set
  split
  · exact .failed _ files (.refl _ files)
  · rename_i tripped
    exact backing.commitChecked_turn slots files rfl tripped

theorem propose_turn (objectors : List (Nat × Objector Config)) (value : Config) :
    backing.Turn slots files (.propose objectors value)
      (backing.propose objectors slots files value).1 := by
  unfold propose
  split
  · exact .failed _ files (.refl _ files)
  · rename_i tripped
    dsimp only
    split
    · exact .canceled objectors value _
    · exact backing.commitChecked_turn slots files rfl tripped

theorem forceRefresh_turn :
    backing.Turn slots files .forceRefresh (backing.forceRefresh slots files) := by
  unfold forceRefresh
  split
  · rename_i nothing
    exact .idle nothing
  · rename_i value held
    split
    · rename_i same
      exact .dropped held same
    · rename_i different
      rcases backing.persist_cases slots files value with
        ⟨error, after, refused, spares⟩ | ⟨written, saves, done⟩
      · rw [refused]
        exact .failed error after spares.widen
      · rw [done]
        exact .refreshed held (eq_false_of_ne_true different) saves

theorem restore_turn : backing.Turn slots files .restore (backing.restore slots files) := by
  unfold restore
  split
  · exact .failed _ files (.refl _ files)
  · rename_i former there
    rcases backing.persist_cases slots files former with
      ⟨error, after, refused, spares⟩ | ⟨written, saves, done⟩
    · rw [refused]
      exact .failed error after spares.widen
    · rw [done]
      exact .restored there saves

theorem discard_turn {command : Command Config} {content : Bytes}
    (finds : backing.finding? files command = some (.ok .empty) ∧ content = [] ∨
      ∃ error, backing.finding? files command = some (.ok (.invalid content error))) :
    backing.Turn slots files command (backing.discard slots files content) := by
  unfold discard
  split
  · exact .failed _ files (.refl _ files)
  · rename_i aside setAside
    rcases backing.persist_cases slots aside slots.current with
      ⟨error, after, refused, spares⟩ | ⟨written, saves, done⟩
    · rw [refused]
      exact .failed error after ((FileSystem.write_spares setAside).trans spares.widen)
    · rw [done]
      exact .quarantined finds setAside saves

theorem respond_turn {command : Command Config} {found : Except IoError (Reading Config)}
    (finds : backing.finding? files command = some found) :
    backing.Turn slots files command (backing.respond slots files found) := by
  unfold respond
  split
  · rcases backing.persist_cases slots files slots.current with
      ⟨error, after, refused, spares⟩ | ⟨written, saves, done⟩
    · rw [refused]
      exact .failed error after spares.widen
    · rw [done]
      exact .regenerated finds saves
  · exact .failed _ files (.refl _ files)
  · unfold absorb
    split
    · rename_i same
      exact .unchanged finds same
    · rename_i different
      split
      · rename_i frozen
        exact .deferred finds (eq_false_of_ne_true different) frozen
      · rename_i free
        exact .applied finds (eq_false_of_ne_true different) (eq_false_of_ne_true free)
  · exact backing.discard_turn slots files (.inl ⟨finds, rfl⟩)
  · exact backing.discard_turn slots files (.inr ⟨_, finds⟩)

theorem perform_turn (command : Command Config) :
    backing.Turn slots files command (backing.perform slots files command) := by
  cases command with
  | set value => exact backing.set_turn slots files value
  | propose objectors value => exact backing.propose_turn slots files objectors value
  | freeze => exact .freeze
  | unfreeze => exact .unfreeze
  | forceRefresh => exact backing.forceRefresh_turn slots files
  | restore => exact backing.restore_turn slots files
  | reload => exact backing.respond_turn slots files rfl
  | reloadSeeing seen => exact backing.respond_turn slots files rfl

end

end Backing

end LiveService
