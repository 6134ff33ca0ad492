import LiveService.Config.Service
import LiveService.Proofs.Config.RoundTrip
import LiveService.Proofs.Files.Content
import LiveService.Proofs.Store.Failure
import LiveService.Proofs.Store.Values

/-!
What a store writes to its file.  Whichever value an operation has written, the file then decodes to the
value in effect, so that the next look at the file finds nothing to do.
-/

namespace LiveService

variable {Config : Type}

namespace Format

variable [BEq Config]

def Keeps (format : Format Config) (value : Config) : Prop :=
  ∃ content again, format.encode value = .ok content ∧ format.decode content = .ok again ∧
    (again == value) = true

/-- What is written is never blank; the defaults, and whatever was read once, are read back. -/
structure IsFaithful (format : Format Config) (defaults : Config) : Prop where
  solid : ∀ value content, format.encode value = .ok content → content.all Text.isAsciiBlank = false
  defaults : format.Keeps defaults
  decoded : ∀ content value, format.decode content = .ok value → format.Keeps value

theorem isFaithful_of_isLossless [ReflBEq Config] {codec : Codec Config} (lossless : codec.IsLossless)
    (objects : ∀ value, ∃ members, codec.write value = .object members) (defaults : Config) :
    codec.format.IsFaithful defaults := by
  have keeps (value : Config) : codec.format.Keeps value :=
    ⟨codec.encode value, value, rfl, lossless.decode_encode value, BEq.rfl⟩
  refine ⟨?_, keeps defaults, fun _ value _ => keeps value⟩
  intro value content encoded
  cases encoded
  obtain ⟨members, written⟩ := objects value
  rw [Codec.encode, written]
  exact Json.fileText_object_solid members

end Format

theorem ServiceConfig.isFaithful (defaults : ServiceConfig) :
    ServiceConfig.codec.format.IsFaithful defaults :=
  Format.isFaithful_of_isLossless (.of_restores (by decide) ServiceConfig.restores)
    (fun _ => ⟨_, rfl⟩) defaults

def Command.writes : Command Config → Answer → Bool
  | .set _, _ => true
  | .propose _ _, _ => true
  | .freeze, _ => false
  | .unfreeze, _ => false
  | .forceRefresh, answer => answer = .refreshed true
  | .restore, _ => true
  | .reload, answer => answer = .reloaded .quarantined ∨ answer = .reloaded .regenerated
  | .reloadSeeing _, answer => answer = .reloaded .quarantined ∨ answer = .reloaded .regenerated

def Command.isAlone : Command Config → Bool
  | .reloadSeeing _ => false
  | _ => true

namespace Backing

variable {backing : Backing Config} {slots after : Slots Config} {files written : FileSystem}
  {value : Config} {content : Bytes}

/-- What the file holds decodes to the value in effect, whether or not it may be read. -/
def Decodes [BEq Config] (backing : Backing Config) (slots : Slots Config) (files : FileSystem) : Prop :=
  ∃ content value, files.Holds backing.path content ∧ backing.format.decode content = .ok value ∧
    (value == slots.current) = true

def HasWritten [BEq Config] (backing : Backing Config) (slots : Slots Config) (written : FileSystem) :
    Prop :=
  ∃ files content value, ConfigFile.write files backing.path content = (written, .ok ()) ∧
    content.all Text.isAsciiBlank = false ∧ backing.format.decode content = .ok value ∧
    (value == slots.current) = true

/-- The file decodes to the value in effect, and so a reload has nothing to do. -/
structure Agrees [BEq Config] (backing : Backing Config) (slots : Slots Config) (files : FileSystem) :
    Prop where
  file : ∃ content value, files.read backing.path = .ok content ∧
    content.all Text.isAsciiBlank = false ∧ backing.format.decode content = .ok value ∧
    (value == slots.current) = true
  answer : (backing.reload slots files).result = .ok (.reloaded .unchanged)
  current : (backing.reload slots files).slots.current = slots.current
  version : (backing.reload slots files).slots.version = slots.version
  previous : (backing.reload slots files).slots.previous = slots.previous
  frozen : (backing.reload slots files).slots.frozen = slots.frozen
  filesAfter : (backing.reload slots files).files = files
  untold : (backing.reload slots files).announced = []
  uncounted : (backing.reload slots files).counts = []

variable [BEq Config]

theorem Agrees.of_read (there : files.read backing.path = .ok content)
    (solid : content.all Text.isAsciiBlank = false)
    (decoded : backing.format.decode content = .ok value) (same : (value == slots.current) = true) :
    backing.Agrees slots files := by
  have reloaded : backing.reload slots files =
      .quiet (.ok (.reloaded .unchanged)) { slots with seen := some value, held := none } files := by
    simp only [reload, ConfigFile.read_of_solid there solid decoded, respond, absorb, same, if_true]
  refine ⟨⟨content, value, there, solid, decoded, same⟩, ?_, ?_, ?_, ?_, ?_, ?_, ?_, ?_⟩
  all_goals
    rw [reloaded]
    rfl

theorem HasWritten.decodes (hasWritten : backing.HasWritten slots files) : backing.Decodes slots files := by
  obtain ⟨_, content, value, wrote, _, decoded, same⟩ := hasWritten
  exact ⟨content, value, ConfigFile.write_holds wrote, decoded, same⟩

theorem HasWritten.agrees (hasWritten : backing.HasWritten slots files)
    (plain : files.IsPlain backing.path) : backing.Agrees slots files := by
  obtain ⟨_, content, value, wrote, solid, decoded, same⟩ := hasWritten
  exact .of_read (ConfigFile.read_of_write wrote plain) solid decoded same

section

variable {defaults : Config} (faithful : backing.format.IsFaithful defaults)

include faithful

theorem hasWritten_of_saves (keeps : backing.format.Keeps value)
    (saves : backing.Saves value files written) (inEffect : slots.current = value) :
    backing.HasWritten slots written := by
  obtain ⟨content, again, encoded, decoded, same⟩ := keeps
  obtain ⟨_, alike, wrote⟩ := saves
  cases encoded.symm.trans alike
  exact ⟨files, content, again, wrote, faithful.solid value content encoded, decoded, inEffect ▸ same⟩

variable [PartialEquivBEq Config] {answer : Answer}

theorem Turn.hasWritten {command : Command Config} {outcome : Outcome Config}
    (turn : backing.Turn slots files command outcome) (holds : slots.HoldOnly backing.format.Keeps)
    (succeeded : outcome.result = .ok answer) (writes : command.writes answer = true) :
    backing.HasWritten outcome.slots outcome.files := by
  cases turn with
  | failed | canceled => cases succeeded
  | freeze | unfreeze => cases writes
  | idle | dropped =>
    cases succeeded
    cases writes
  | unchanged finds | deferred finds | applied finds =>
    cases succeeded
    cases command with
    | reload | reloadSeeing _ => cases writes
    | _ => cases finds
  | set accepts tripped wrote =>
    -- What is in effect now came out of a round trip, so it equals something and therefore itself.
    obtain ⟨encoded, decoded⟩ := Format.of_roundTrip tripped
    obtain ⟨_, again, _, _, same⟩ := faithful.decoded _ _ decoded
    exact ⟨files, _, _, wrote, faithful.solid _ _ encoded, decoded,
      PartialEquivBEq.trans (PartialEquivBEq.symm same) same⟩
  | refreshed held _ saves => exact hasWritten_of_saves faithful (holds.held _ held) saves rfl
  | restored there saves => exact hasWritten_of_saves faithful (holds.previous _ there) saves rfl
  | regenerated _ saves | quarantined _ _ saves =>
    exact hasWritten_of_saves faithful holds.current saves rfl

theorem perform_hasWritten (holds : slots.HoldOnly backing.format.Keeps) {command : Command Config}
    (succeeded : (backing.perform slots files command).result = .ok answer)
    (writes : command.writes answer = true) :
    let outcome := backing.perform slots files command
    backing.HasWritten outcome.slots outcome.files :=
  (backing.perform_turn slots files command).hasWritten faithful holds succeeded writes

omit [PartialEquivBEq Config] in
theorem load_hasWritten {notifier : Except NotifierError Unit}
    (loaded : (backing.load defaults files notifier).2 = .ok slots)
    (missing : files.isPresent backing.path = false) :
    backing.HasWritten slots (backing.load defaults files notifier).1 := by
  obtain ⟨content, again, encoded, decoded, same⟩ := faithful.defaults
  simp only [load, missing, Bool.false_eq_true, if_false, encoded] at loaded ⊢
  split
  · rename_i refused
    rw [refused] at loaded
    cases loaded
  · rename_i wrote
    rw [wrote] at loaded
    cases notifier with
    | error error => cases loaded
    | ok _ =>
      cases loaded
      exact ⟨files, content, again, wrote, faithful.solid defaults content encoded, decoded, same⟩

end

section

variable {defaults : Config}

theorem Agrees.of_kept {after : FileSystem} {reached : Slots Config}
    (agrees : backing.Agrees slots files)
    (readable : ∀ content, files.read backing.path = .ok content →
      after.read backing.path = .ok content)
    (current : reached.current = slots.current) : backing.Agrees reached after := by
  obtain ⟨content, value, there, solid, decoded, same⟩ := agrees.file
  exact .of_read (readable content there) solid decoded (current ▸ same)

theorem forceRefresh_kept {answer : Answer}
    (succeeded : (backing.forceRefresh slots files).result = .ok answer)
    (idle : answer ≠ .refreshed true) :
    (backing.forceRefresh slots files).files = files ∧
      (backing.forceRefresh slots files).slots.current = slots.current := by
  unfold forceRefresh at succeeded ⊢
  split
  · exact ⟨rfl, rfl⟩
  · rename_i value held
    rw [held] at succeeded
    split
    · exact ⟨rfl, rfl⟩
    · rename_i different
      dsimp only at succeeded
      rw [if_neg different] at succeeded
      split
      · rename_i refused
        rw [refused] at succeeded
        cases succeeded
      · rename_i wrote
        rw [wrote] at succeeded
        cases succeeded
        exact absurd rfl idle

theorem Agrees.perform [PartialEquivBEq Config] (faithful : backing.format.IsFaithful defaults)
    (holds : slots.HoldOnly backing.format.Keeps) (agrees : backing.Agrees slots files)
    {command : Command Config} (alone : command.isAlone = true)
    (plain : (backing.perform slots files command).files.IsPlain backing.path) :
    let outcome := backing.perform slots files command
    backing.Agrees outcome.slots outcome.files := by
  intro outcome
  cases result : outcome.result with
  | error error =>
    have void := perform_void result
    exact agrees.of_kept (fun content there => void.read_eq there) (by rw [void.slots])
  | ok answer =>
    cases writes : command.writes answer with
    | true => exact (perform_hasWritten faithful holds result writes).agrees plain
    | false =>
      cases command with
      | set value => cases writes
      | propose objectors value => cases writes
      | freeze => exact agrees.of_kept (fun _ there => there) rfl
      | unfreeze => exact agrees.of_kept (fun _ there => there) rfl
      | forceRefresh =>
        obtain ⟨sameFiles, current⟩ := forceRefresh_kept result (of_decide_eq_false writes)
        exact agrees.of_kept (fun _ there => sameFiles ▸ there) current
      | restore => cases writes
      | reload => exact agrees.of_kept (fun _ there => agrees.filesAfter ▸ there) agrees.current
      | reloadSeeing seen => cases alone

def StaysPlain (backing : Backing Config) (history : History Config) :
    List (Command Config) → Prop
  | [] => True
  | command :: rest =>
    let next := history.after backing (.operate command)
    next.files.IsPlain backing.path ∧ StaysPlain backing next rest

def KeepsAgreeing (backing : Backing Config) (history : History Config) : Prop :=
  ∀ commands : List (Command Config), (∀ command ∈ commands, command.isAlone = true) →
    StaysPlain backing history commands →
    let reached := history.run backing (commands.map .operate)
    backing.Agrees reached.slots reached.files

theorem KeepsAgreeing.agrees {history : History Config} (keeps : backing.KeepsAgreeing history) :
    backing.Agrees history.slots history.files :=
  keeps [] nofun trivial

theorem Agrees.keepsAgreeing [PartialEquivBEq Config] (faithful : backing.format.IsFaithful defaults)
    {history : History Config} (holds : history.slots.HoldOnly backing.format.Keeps)
    (agrees : backing.Agrees history.slots history.files) : backing.KeepsAgreeing history := by
  intro commands
  induction commands generalizing history with
  | nil =>
    intro _ _
    exact agrees
  | cons command rest ih =>
    intro alone plain
    have holdsAfter :
        (history.after backing (.operate command)).slots.HoldOnly backing.format.Keeps :=
      perform_holdOnly faithful.decoded holds command
    have agreesAfter := agrees.perform faithful holds (alone command List.mem_cons_self) plain.1
    exact ih holdsAfter agreesAfter (fun other later => alone other (List.mem_cons_of_mem _ later))
      plain.2

end

/-- After an operation has written the file, and after the file was made for a new store, what it holds decodes
to the value in effect.  Where it can be read, a reload then answers that nothing has changed, keeps everything
and tells nobody, and it stays like this until somebody else writes the file. -/
theorem self_writes_agree [PartialEquivBEq Config] (backing : Backing Config) (defaults : Config)
    (faithful : backing.format.IsFaithful defaults) (files : FileSystem)
    (notifier : Except NotifierError Unit) (slots : Slots Config)
    (loaded : (backing.load defaults files notifier).2 = .ok slots)
    (incidents : List (Incident Config)) :
    let start := History.opened slots (backing.load defaults files notifier).1
    let history := start.run backing incidents
    (files.isPresent backing.path = false → backing.Decodes start.slots start.files ∧
      (start.files.IsPlain backing.path → backing.KeepsAgreeing start)) ∧
    ∀ command answer,
      let next := history.after backing (.operate command)
      (backing.perform history.slots history.files command).result = .ok answer →
      command.writes answer = true → backing.Decodes next.slots next.files ∧
        (next.files.IsPlain backing.path → backing.KeepsAgreeing next) := by
  intro start history
  have opened : start.slots.HoldOnly backing.format.Keeps :=
    load_holdOnly faithful.decoded faithful.defaults loaded
  have holds : history.slots.HoldOnly backing.format.Keeps :=
    run_holdOnly faithful.decoded incidents opened
  constructor
  · intro missing
    have wrote : backing.HasWritten start.slots start.files := load_hasWritten faithful loaded missing
    exact ⟨wrote.decodes, fun plain => (wrote.agrees plain).keepsAgreeing faithful opened⟩
  · intro command answer next succeeded writes
    have wrote : backing.HasWritten next.slots next.files :=
      perform_hasWritten faithful holds succeeded writes
    have holdsNext : next.slots.HoldOnly backing.format.Keeps :=
      perform_holdOnly faithful.decoded holds command
    exact ⟨wrote.decodes, fun plain => (wrote.agrees plain).keepsAgreeing faithful holdsNext⟩

theorem self_writes_agree_after_forced_refresh :
    let backing : Backing ServiceConfig := ⟨ServiceConfig.codec.format, ⟨"a"⟩⟩
    let start := History.opened (.initial {}) (backing.load {} (.fresh []) (.ok ())).1
    let changed := start.files.put ["a"]
      (some (.file (Text.bytes "\x7b\"greeting\": \"hi\"\x7d")))
    let history := start.run backing [.operate .freeze, .changeFiles changed, .operate .reload]
    let next := history.after backing (.operate .forceRefresh)
    let later := next.run backing ([.unfreeze, .set {}].map .operate)
    history.slots.held = some { greeting := "hi" } ∧ next.slots.current.greeting = "hi" ∧
      backing.KeepsAgreeing start ∧ backing.Agrees next.slots next.files ∧
      backing.Agrees later.slots later.files := by
  have loaded : (Backing.load ⟨ServiceConfig.codec.format, ⟨"a"⟩⟩ {} (.fresh []) (.ok ())).2 =
      .ok (.initial {}) :=
    rfl
  intro backing start changed history next later
  have agreement := self_writes_agree backing {} (ServiceConfig.isFaithful {}) (.fresh []) (.ok ())
    (.initial {}) loaded [.operate .freeze, .changeFiles changed, .operate .reload]
  have plainStart : start.files.IsPlain backing.path :=
    FileSystem.isPlain_of_locate ["a"] (by decide +kernel) (by decide +kernel) (by decide +kernel)
  have plainNext : next.files.IsPlain backing.path :=
    FileSystem.isPlain_of_locate ["a"] (by decide +kernel) (by decide +kernel) (by decide +kernel)
  have plainLater : StaysPlain backing next [.unfreeze, .set {}] :=
    ⟨FileSystem.isPlain_of_locate ["a"] (by decide +kernel) (by decide +kernel) (by decide +kernel),
      FileSystem.isPlain_of_locate ["a"] (by decide +kernel) (by decide +kernel) (by decide +kernel),
      trivial⟩
  have answered : (backing.perform history.slots history.files .forceRefresh).result =
      .ok (.refreshed true) := by
    simp only [history, changed, start, backing]
    rfl
  have keeps : backing.KeepsAgreeing next :=
    (agreement.2 .forceRefresh (.refreshed true) answered (by decide +kernel)).2 plainNext
  exact ⟨by decide +kernel, by decide +kernel, (agreement.1 (by decide +kernel)).2 plainStart,
    keeps.agrees, keeps [.unfreeze, .set {}] (by simp [Command.isAlone]) plainLater⟩

end Backing

end LiveService
