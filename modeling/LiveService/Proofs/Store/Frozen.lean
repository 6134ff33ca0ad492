import LiveService.Proofs.Store.Held
import LiveService.Proofs.Store.Values

/-!
A frozen store.  However its file changes and however often it is looked at, what is in effect stays, and
only what the last look has found can come into effect later, by force.
-/

namespace LiveService

variable {Config : Type}

def Command.looks : Command Config → Bool
  | .reload | .reloadSeeing _ => true
  | _ => false

def Incident.looks : Incident Config → Bool
  | .operate command => command.looks
  | .changeFiles _ => true

def Incident.idles : Incident Config → Bool
  | .operate .freeze | .operate .unfreeze => true
  | .operate _ => false
  | .changeFiles _ => true

/-- A look at the file that brings nothing into effect. -/
structure Outcome.AppliesNothing (slots : Slots Config) (outcome : Outcome Config) : Prop
    extends outcome.IsSilent slots where
  answer : outcome.result ≠ .ok (.reloaded .applied)

namespace Backing

variable {backing : Backing Config} {slots : Slots Config} {files : FileSystem}
  {command : Command Config} {value : Config}

theorem persist_of_write {written : FileSystem} {content : Bytes}
    (encoded : backing.format.encode value = .ok content)
    (wrote : ConfigFile.write files backing.path content = (written, .ok ())) :
    backing.persist slots files value = (written, .ok { slots with seen := some value }) := by
  simp only [persist, encoded, writeContent, wrote]

theorem looks_of_finding {found : Except IoError (Reading Config)}
    (finds : backing.finding? files command = some found) : command.looks = true := by
  cases command with
  | reload | reloadSeeing _ => rfl
  | _ => cases finds

variable [BEq Config]

theorem perform_of_finding {found : Except IoError (Reading Config)}
    (finds : backing.finding? files command = some found) :
    backing.perform slots files command = backing.respond slots files found := by
  cases command with
  | reload | reloadSeeing _ =>
    cases finds
    rfl
  | _ => cases finds

theorem absorb_of_same (same : (value == slots.current) = true) :
    absorb slots files value =
      .quiet (.ok (.reloaded .unchanged)) { slots with seen := some value, held := none } files := by
  simp only [absorb, same, if_true]

theorem absorb_of_frozen (frozen : slots.frozen = true) (different : (value == slots.current) = false) :
    absorb slots files value =
      .quiet (.ok (.reloaded .deferred)) { slots with seen := some value, held := some value } files := by
  simp only [absorb, frozen, different, Bool.false_eq_true, if_false, if_true]

theorem Turn.appliesNothing {outcome : Outcome Config} (frozen : slots.frozen = true)
    (looks : command.looks = true) (turn : backing.Turn slots files command outcome) :
    outcome.AppliesNothing slots := by
  cases turn with
  | failed | unchanged | deferred | regenerated | quarantined =>
    exact ⟨⟨rfl, rfl, rfl, rfl, rfl⟩, nofun⟩
  | applied finds different free => cases frozen.symm.trans free
  | set accepts =>
    cases command with
    | reload | reloadSeeing _ => cases accepts
    | _ => cases looks
  | _ => cases looks

end Backing

namespace History

structure IsUnmovedSince (history reached : History Config) : Prop where
  version : reached.slots.version = history.slots.version
  current : reached.slots.current = history.slots.current
  previous : reached.slots.previous = history.slots.previous
  announced : reached.announced = history.announced

variable {history reached later : History Config}

theorem IsUnmovedSince.trans (unmoved : history.IsUnmovedSince reached)
    (still : reached.IsUnmovedSince later) : history.IsUnmovedSince later where
  version := still.version.trans unmoved.version
  current := still.current.trans unmoved.current
  previous := still.previous.trans unmoved.previous
  announced := still.announced.trans unmoved.announced

theorem IsUnmovedSince.record {outcome : Outcome Config} (unmoved : history.IsUnmovedSince reached)
    (silent : outcome.IsSilent reached.slots) : history.IsUnmovedSince (reached.record outcome) where
  version := silent.version.trans unmoved.version
  current := silent.current.trans unmoved.current
  previous := silent.previous.trans unmoved.previous
  announced := by
    rw [History.record, silent.untold, List.append_nil]
    exact unmoved.announced

variable [BEq Config]

theorem run_looks (backing : Backing Config) (frozen : history.slots.frozen = true)
    {incidents : List (Incident Config)} (looks : ∀ incident ∈ incidents, incident.looks = true) :
    history.IsUnmovedSince (history.run backing incidents) ∧
      (history.run backing incidents).slots.frozen = true := by
  refine run_keeps
    (fun reached => history.IsUnmovedSince reached ∧ reached.slots.frozen = true) ?_
    ⟨⟨rfl, rfl, rfl, rfl⟩, frozen⟩
  rintro reached incident present ⟨unmoved, frozen⟩
  cases incident with
  | changeFiles files => exact ⟨{ unmoved with }, frozen⟩
  | operate command =>
    have waits := (backing.perform_turn reached.slots reached.files command).appliesNothing frozen
      (looks _ present)
    exact ⟨unmoved.record waits.toIsSilent, waits.frozen.trans frozen⟩

theorem run_idles (backing : Backing Config) (history : History Config)
    {incidents : List (Incident Config)} (idles : ∀ incident ∈ incidents, incident.idles = true) :
    history.IsUnmovedSince (history.run backing incidents) ∧
      (history.run backing incidents).slots.held = history.slots.held := by
  refine run_keeps
    (fun reached => history.IsUnmovedSince reached ∧ reached.slots.held = history.slots.held) ?_
    ⟨⟨rfl, rfl, rfl, rfl⟩, rfl⟩
  rintro reached incident present ⟨unmoved, held⟩
  have idle := idles incident present
  cases incident with
  | changeFiles files => exact ⟨{ unmoved with }, held⟩
  | operate command =>
    cases command with
    | freeze | unfreeze =>
      refine ⟨⟨unmoved.version, unmoved.current, unmoved.previous, ?_⟩, held⟩
      exact (List.append_nil _).trans unmoved.announced
    | _ => cases idle

end History

/-- While a store is frozen, looks at its file leave alone what is in effect, and tell nobody, whatever they
find.  What the last of them has read comes into effect with the next forced refresh, also if the store was
set free before; if it is in effect already, the refresh does nothing. -/
theorem History.frozen_store_is_isolated [BEq Config] (backing : Backing Config)
    (history : History Config) (frozen : history.slots.frozen = true)
    (incidents : List (Incident Config)) (looks : ∀ incident ∈ incidents, incident.looks = true) :
    let reached := history.run backing incidents
    history.IsUnmovedSince reached ∧
      (∀ command, command.looks = true →
        (backing.perform reached.slots reached.files command).result ≠ .ok (.reloaded .applied)) ∧
      ∀ command value, backing.finding? reached.files command = some (.ok (.parsed value)) →
        ∀ later, (∀ incident ∈ later, incident.idles = true) →
          let ready := (reached.after backing (.operate command)).run backing later
          let outcome := backing.perform ready.slots ready.files .forceRefresh
          history.IsUnmovedSince ready ∧
            ((value == history.slots.current) = true →
              outcome = .quiet (.ok (.refreshed false)) ready.slots ready.files) ∧
            ((value == history.slots.current) = false →
              ∀ content, backing.format.encode value = .ok content →
                (ConfigFile.write ready.files backing.path content).2 = .ok () →
                  outcome.Refreshes ready.slots value) := by
  intro reached
  obtain ⟨unmoved, stillFrozen⟩ := run_looks backing frozen looks
  have waits (command : Command Config) (looking : command.looks = true) :
      (backing.perform reached.slots reached.files command).AppliesNothing reached.slots :=
    (backing.perform_turn _ _ command).appliesNothing stillFrozen looking
  refine ⟨unmoved, fun command looking => (waits command looking).answer, ?_⟩
  intro command value finds later idles ready outcome
  have found : backing.perform reached.slots reached.files command =
      Backing.absorb reached.slots reached.files value :=
    Backing.perform_of_finding finds
  obtain ⟨idle, held⟩ := run_idles backing (reached.after backing (.operate command)) idles
  have unmovedReady : history.IsUnmovedSince ready := (unmoved.record (waits command (Backing.looks_of_finding finds)).toIsSilent).trans idle
  refine ⟨unmovedReady, ?_, ?_⟩
  · intro same
    apply Backing.forceRefresh_of_none
    rw [held, after, record, found, Backing.absorb_of_same (unmoved.current ▸ same)]
    rfl
  · intro different content encoded succeeded
    have pending : ready.slots.held = some value := by
      rw [held, after, record, found,
        Backing.absorb_of_frozen stillFrozen (unmoved.current ▸ different)]
      rfl
    have wrote : ConfigFile.write ready.files backing.path content =
        ((ConfigFile.write ready.files backing.path content).1, .ok ()) :=
      Prod.ext rfl succeeded
    exact Backing.forceRefresh_of_persist pending (unmovedReady.current ▸ different)
      (Backing.persist_of_write encoded wrote)

theorem History.frozen_store_is_isolated_from_two_changes :
    let backing : Backing Bytes := ⟨⟨.ok, .ok⟩, ⟨"a"⟩⟩
    let start := History.opened (.initial [1]) (backing.load [1] (.fresh []) (.ok ())).1
    let holding (content : Bytes) := start.files.put ["a"] (some (.file content))
    let history := start.run backing [.operate .freeze]
    let incidents (content : Bytes) : List (Incident Bytes) :=
      [.changeFiles (holding [4]), .operate .reload, .changeFiles (holding content)]
    let reached (content : Bytes) := history.run backing (incidents content)
    let ready (content : Bytes) :=
      ((reached content).after backing (.operate .reload)).run backing [.operate .unfreeze]
    let refreshed (content : Bytes) :=
      backing.perform (ready content).slots (ready content).files .forceRefresh
    (reached [5]).slots.held = some [4] ∧ history.IsUnmovedSince (ready [5]) ∧
      (refreshed [5]).Refreshes (ready [5]).slots [5] ∧
      refreshed [1] = .quiet (.ok (.refreshed false)) (ready [1]).slots (ready [1]).files := by
  intro backing start holding history incidents reached ready refreshed
  have isolated (content : Bytes) := frozen_store_is_isolated backing history (by decide +kernel)
    (incidents content) (by simp [incidents, Incident.looks, Command.looks])
  have idles : ∀ incident ∈ [Incident.operate (.unfreeze : Command Bytes)],
      incident.idles = true := by
    simp [Incident.idles]
  have finds (content : Bytes) (there : (reached content).files.read ⟨"a"⟩ = .ok content)
      (solid : content.all Text.isAsciiBlank = false) :
      backing.finding? (reached content).files .reload = some (.ok (.parsed content)) :=
    congrArg some (ConfigFile.read_of_solid there solid rfl)
  have second := finds [5] (by decide +kernel) (by decide +kernel)
  have first := finds [1] (by decide +kernel) (by decide +kernel)
  obtain ⟨unmoved, _, commits⟩ := (isolated [5]).2.2 .reload [5] second _ idles
  obtain ⟨_, drops, _⟩ := (isolated [1]).2.2 .reload [1] first _ idles
  exact ⟨by decide +kernel, unmoved, commits (by decide +kernel) [5] rfl (by decide +kernel),
    drops (by decide +kernel)⟩

end LiveService
