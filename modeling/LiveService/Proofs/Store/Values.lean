import LiveService.Proofs.Store.History
import LiveService.Proofs.Store.Reading

/-!
Where the values of a store come from.  Each was the default when the store was opened, or was decoded from
some content, and whatever holds of those holds of every value that a store can ever bring into effect.
-/

namespace LiveService

variable {Config : Type}

structure Slots.HoldOnly (kept : Config → Prop) (slots : Slots Config) : Prop where
  current : kept slots.current
  previous : ∀ former, slots.previous = some former → kept former
  held : ∀ value, slots.held = some value → kept value

theorem Format.of_roundTrip {format : Format Config} {value checked : Config} {content : Bytes}
    (tripped : format.roundTrip value = .ok (checked, content)) :
    format.encode value = .ok content ∧ format.decode content = .ok checked := by
  unfold roundTrip at tripped
  split at tripped
  · cases tripped
  · rename_i encoded
    split at tripped
    · cases tripped
    · rename_i decoded
      cases tripped
      exact ⟨encoded, decoded⟩

/-- A file that nobody writes to is found the same at every look. -/
theorem ConfigFile.read_eq {format : Format Config} {files : FileSystem} {path : Path}
    {content : Bytes} (there : files.read path = .ok content) :
    read format files path =
      .ok (if content.all Text.isAsciiBlank then .empty
        else match format.decode content with
          | .ok value => .parsed value
          | .error error => .invalid content error) := by
  cases blank : content.all Text.isAsciiBlank with
  | true => exact readChanging_eq_empty_iff.mpr fun _ _ => ⟨content, there, blank⟩
  | false =>
    have ends : EndsAt (fun _ => files.read path) 0 := .first (there ▸ not_showsBlank blank)
    rw [read, (ends.reads format).1, there, verdict]
    cases format.decode content <;> rfl

theorem ConfigFile.read_of_solid {format : Format Config} {files : FileSystem} {path : Path}
    {content : Bytes} {value : Config} (there : files.read path = .ok content)
    (solid : content.all Text.isAsciiBlank = false) (decoded : format.decode content = .ok value) :
    read format files path = .ok (.parsed value) := by
  rw [read_eq there, solid, decoded]
  rfl

namespace Slots.HoldOnly

variable {kept : Config → Prop} {slots : Slots Config}

theorem initial {value : Config} (known : kept value) : (Slots.initial value).HoldOnly kept :=
  ⟨known, nofun, nofun⟩

theorem withSeen (holds : slots.HoldOnly kept) (seen : Option Config) :
    HoldOnly kept { slots with seen := seen } :=
  ⟨holds.current, holds.previous, holds.held⟩

theorem withoutHeld (holds : slots.HoldOnly kept) (seen : Option Config) :
    HoldOnly kept { slots with seen := seen, held := none } :=
  ⟨holds.current, holds.previous, nofun⟩

theorem withHeld (holds : slots.HoldOnly kept) (seen : Option Config) {value : Config}
    (known : kept value) : HoldOnly kept { slots with seen := seen, held := some value } :=
  ⟨holds.current, holds.previous, fun _ there => Option.some.inj there ▸ known⟩

theorem withFrozen (holds : slots.HoldOnly kept) (frozen : Bool) :
    HoldOnly kept { slots with frozen := frozen } :=
  ⟨holds.current, holds.previous, holds.held⟩

theorem commit (holds : slots.HoldOnly kept) {next : Config} (known : kept next) :
    (slots.commit next).HoldOnly kept :=
  ⟨known, fun _ there => Option.some.inj there ▸ holds.current, holds.held⟩

theorem rollBack {former : Config} (known : kept former) : (slots.rollBack former).HoldOnly kept :=
  ⟨known, nofun, nofun⟩

end Slots.HoldOnly

namespace Backing

variable {backing : Backing Config} {slots : Slots Config} {files : FileSystem} {value : Config}
  {content : Bytes}

variable {kept : Config → Prop}

theorem load_holdOnly {defaults : Config} {notifier : Except NotifierError Unit}
    (known : ∀ content value, backing.format.decode content = .ok value → kept value)
    (standard : kept defaults) (loaded : (backing.load defaults files notifier).2 = .ok slots) :
    slots.HoldOnly kept := by
  simp only [load] at loaded
  split at loaded
  · split at loaded
    · cases loaded
    · cases loaded
    · cases loaded
    · rename_i parsed
      obtain ⟨_, content, _, _, decoded⟩ := ConfigFile.content_of_parsed parsed
      split at loaded
      · cases loaded
      · cases loaded
        exact .initial (known content _ decoded)
  · split at loaded
    · cases loaded
    · split at loaded
      · cases loaded
      · dsimp only at loaded
        split at loaded
        · cases loaded
        · cases loaded
          exact .initial standard

theorem decode_of_finding {command : Command Config}
    (finds : backing.finding? files command = some (.ok (.parsed value))) :
    ∃ content, backing.format.decode content = .ok value := by
  cases command with
  | reload | reloadSeeing _ =>
    obtain ⟨_, content, _, _, decoded⟩ := ConfigFile.content_of_parsed (Option.some.inj finds)
    exact ⟨content, decoded⟩
  | _ => cases finds

variable [BEq Config]
  (known : ∀ content value, backing.format.decode content = .ok value → kept value)

include known

/-- Every value that comes into a store was decoded from some content. -/
theorem Turn.holdOnly {command : Command Config} {outcome : Outcome Config}
    (turn : backing.Turn slots files command outcome) (holds : slots.HoldOnly kept) :
    outcome.slots.HoldOnly kept := by
  have parsed {value : Config} (finds : backing.finding? files command = some (.ok (.parsed value))) :
      kept value := by
    obtain ⟨content, decoded⟩ := decode_of_finding finds
    exact known content value decoded
  cases turn with
  | failed | canceled | idle => exact holds
  | freeze | unfreeze => exact holds.withFrozen _
  | regenerated | quarantined => exact holds.withSeen _
  | dropped | unchanged => exact holds.withoutHeld _
  | set _ tripped =>
    exact (holds.withoutHeld _).commit (known _ _ (Format.of_roundTrip tripped).2)
  | refreshed held => exact (holds.withoutHeld _).commit (holds.held _ held)
  | restored there => exact .rollBack (holds.previous _ there)
  | deferred finds => exact holds.withHeld _ (parsed finds)
  | applied finds => exact (holds.withoutHeld _).commit (parsed finds)

theorem perform_holdOnly (holds : slots.HoldOnly kept) (command : Command Config) :
    (backing.perform slots files command).slots.HoldOnly kept :=
  (backing.perform_turn slots files command).holdOnly known holds

theorem run_holdOnly (incidents : List (Incident Config)) {history : History Config}
    (holds : history.slots.HoldOnly kept) : (history.run backing incidents).slots.HoldOnly kept := by
  refine History.run_keeps (fun reached => reached.slots.HoldOnly kept) ?_ holds
  intro reached incident _ holds
  cases incident with
  | operate command => exact perform_holdOnly known holds command
  | changeFiles files => exact holds

end Backing

end LiveService
