import LiveService.Store.Slots

/-!
The operations of a configuration store.  Each runs as a whole under the store's lock: it reads or
writes the file first and changes the slots only when that has succeeded.
-/

namespace LiveService

structure Backing (Config : Type) where
  format : Format Config
  path : Path

namespace Backing

variable {Config : Type}

def writeContent (backing : Backing Config) (slots : Slots Config) (files : FileSystem)
    (value : Config) (content : Bytes) : FileSystem × Except ConfigError (Slots Config) :=
  match ConfigFile.write files backing.path content with
  | (files, .error error) => (files, .error (.persist backing.path error))
  | (files, .ok ()) => (files, .ok { slots with seen := some value })

def persist (backing : Backing Config) (slots : Slots Config) (files : FileSystem)
    (value : Config) : FileSystem × Except ConfigError (Slots Config) :=
  match backing.format.encode value with
  | .error error => (files, .error (.serialization error))
  | .ok content => backing.writeContent slots files value content

/-- Opens a store: reads its file, or makes the file from the defaults if there is none.  `notifier`
is whether changes of the file will be told. -/
def load (backing : Backing Config) (defaults : Config) (files : FileSystem)
    (notifier : Except NotifierError Unit) : FileSystem × Except ConfigError (Slots Config) :=
  let subscribed (value : Config) : Except ConfigError (Slots Config) :=
    match notifier with
    | .error error => .error (.notifier error)
    | .ok () => .ok (.initial value)
  let unreadable (reason : Unreadable) : Except ConfigError (Slots Config) :=
    .error (.unreadable backing.path reason)
  if files.isPresent backing.path then
    match ConfigFile.read backing.format files backing.path with
    | .error error => (files, unreadable (.refused error))
    | .ok .empty => (files, unreadable .stillEmpty)
    | .ok (.invalid _ error) => (files, unreadable (.invalid error))
    | .ok (.parsed value) => (files, subscribed value)
  else
    match backing.format.encode defaults with
    | .error error => (files, .error (.serialization error))
    | .ok content =>
      match ConfigFile.write files backing.path content with
      | (files, .error error) => (files, .error (.persist backing.path error))
      | (files, .ok ()) => (files, subscribed defaults)

def commitChecked (backing : Backing Config) (slots : Slots Config) (files : FileSystem)
    (value : Config) (content : Bytes) : Outcome Config :=
  match backing.writeContent slots files value content with
  | (files, .error error) => .quiet (.error error) slots files
  | (files, .ok slots) => .committed .done { slots with held := none } files value .api

def set (backing : Backing Config) (slots : Slots Config) (files : FileSystem) (value : Config) :
    Outcome Config :=
  match backing.format.roundTrip value with
  | .error error => .quiet (.error (.serialization error)) slots files
  | .ok (value, content) => backing.commitChecked slots files value content

/-- As `set`, unless one of the objectors cancels the change.  Gives also who was asked. -/
def propose (backing : Backing Config) (objectors : List (Nat × Objector Config))
    (slots : Slots Config) (files : FileSystem) (value : Config) :
    Outcome Config × List (Nat × Proposal Config) :=
  match backing.format.roundTrip value with
  | .error error => (.quiet (.error (.serialization error)) slots files, [])
  | .ok (value, content) =>
    let (judged, asked) := (Proposal.of value slots.current).putTo objectors
    match judged.reason with
    | some reason =>
      (⟨.error (.canceled reason), slots, files, [.canceled reason], [], []⟩, asked)
    | none => (backing.commitChecked slots files value content, asked)

def freeze (slots : Slots Config) (files : FileSystem) : Outcome Config :=
  .quiet (.ok .done) { slots with frozen := true } files

def unfreeze (slots : Slots Config) (files : FileSystem) : Outcome Config :=
  .quiet (.ok .done) { slots with frozen := false } files

def forceRefresh [BEq Config] (backing : Backing Config) (slots : Slots Config)
    (files : FileSystem) : Outcome Config :=
  match slots.held with
  | none => .quiet (.ok (.refreshed false)) slots files
  | some value =>
    if value == slots.current then
      .quiet (.ok (.refreshed false)) { slots with held := none } files
    else
      match backing.persist slots files value with
      | (files, .error error) => .quiet (.error error) slots files
      | (files, .ok slots) =>
        .committed (.refreshed true) { slots with held := none } files value .refresh

def restore (backing : Backing Config) (slots : Slots Config) (files : FileSystem) :
    Outcome Config :=
  match slots.previous with
  | none => .quiet (.error .restoreUnavailable) slots files
  | some former =>
    match backing.persist slots files former with
    | (files, .error error) => .quiet (.error error) slots files
    | (files, .ok slots) =>
      let slots' := slots.rollBack former
      ⟨.ok .done, slots', files, [], [.restored slots'.version former slots.current], [.restore]⟩

def absorb [BEq Config] (slots : Slots Config) (files : FileSystem) (value : Config) :
    Outcome Config :=
  if value == slots.current then
    .quiet (.ok (.reloaded .unchanged)) { slots with seen := some value, held := none } files
  else if slots.frozen then
    .quiet (.ok (.reloaded .deferred)) { slots with seen := some value, held := some value } files
  else
    .committed (.reloaded .applied) { slots with seen := some value, held := none } files value .file

def discard (backing : Backing Config) (slots : Slots Config) (files : FileSystem)
    (content : Bytes) : Outcome Config :=
  match ConfigFile.quarantine files backing.path content with
  | .error error =>
    .quiet (.error (.persist (ConfigFile.rejectedPath backing.path) error)) slots files
  | .ok files =>
    match backing.persist slots files slots.current with
    | (files, .error error) => .quiet (.error error) slots files
    | (files, .ok slots) =>
      ⟨.ok (.reloaded .quarantined), slots, files, [], [], [.quarantine]⟩

def respond [BEq Config] (backing : Backing Config) (slots : Slots Config) (files : FileSystem) :
    Except IoError (Reading Config) → Outcome Config
  | .error .notFound =>
    match backing.persist slots files slots.current with
    | (files, .error error) => .quiet (.error error) slots files
    | (files, .ok slots) => .quiet (.ok (.reloaded .regenerated)) slots files
  | .error error => .quiet (.error (.unreadable backing.path (.refused error))) slots files
  | .ok (.parsed value) => absorb slots files value
  | .ok .empty => backing.discard slots files []
  | .ok (.invalid content _) => backing.discard slots files content

def reload [BEq Config] (backing : Backing Config) (slots : Slots Config) (files : FileSystem) :
    Outcome Config :=
  backing.respond slots files (ConfigFile.read backing.format files backing.path)

/-- As `reload`, while somebody else writes to the file: each look may find something else. -/
def reloadSeeing [BEq Config] (backing : Backing Config) (slots : Slots Config)
    (files : FileSystem) (seen : Nat → Except IoError Bytes) : Outcome Config :=
  backing.respond slots files (ConfigFile.readChanging backing.format seen)

end Backing

inductive Command (Config : Type) where
  | set (value : Config)
  | propose (objectors : List (Nat × Objector Config)) (value : Config)
  | freeze
  | unfreeze
  | forceRefresh
  | restore
  | reload
  | reloadSeeing (seen : Nat → Except IoError Bytes)

def Backing.perform {Config : Type} [BEq Config] (backing : Backing Config) (slots : Slots Config)
    (files : FileSystem) : Command Config → Outcome Config
  | .set value => backing.set slots files value
  | .propose objectors value => (backing.propose objectors slots files value).1
  | .freeze => freeze slots files
  | .unfreeze => unfreeze slots files
  | .forceRefresh => backing.forceRefresh slots files
  | .restore => backing.restore slots files
  | .reload => backing.reload slots files
  | .reloadSeeing seen => backing.reloadSeeing slots files seen

end LiveService
