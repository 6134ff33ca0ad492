import Mathlib.Data.List.Induction
import LiveService.Config.App
import LiveService.Proofs.Store.History

/-!
Changes that wait.  A store remembers the content last seen in its file and holds back what arrives while it
is frozen.  Nothing is held that is in effect already, and nothing that is seen is forgotten; but a store
that writes a damaged or missing file anew goes on holding the change that was lost with it.
-/

namespace LiveService

variable {Config : Type}

def Outcome.rewrites (outcome : Outcome Config) : Bool :=
  match outcome.result with
  | .ok (.reloaded .quarantined) => true
  | .ok (.reloaded .regenerated) => true
  | _ => false

/-- Some content was seen; it is in effect unless a change is held, and a change that is held is not. -/
structure Slots.IsConsistent [BEq Config] (slots : Slots Config) : Prop where
  seen : slots.seen ≠ none
  settled : slots.held = none → ∃ value, slots.seen = some value ∧ (value == slots.current) = true
  pending : ∀ value, slots.held = some value → (value == slots.current) = false

namespace Slots.IsConsistent

variable [BEq Config] [ReflBEq Config] {slots : Slots Config}

theorem initial (config : Config) : (Slots.initial config).IsConsistent where
  seen := nofun
  settled _ := ⟨config, rfl, BEq.rfl⟩
  pending := nofun

theorem of_turn {backing : Backing Config} {files : FileSystem} {command : Command Config}
    {outcome : Outcome Config} (consistent : slots.IsConsistent)
    (turn : backing.Turn slots files command outcome) : outcome.slots.IsConsistent := by
  cases turn with
  | failed | canceled | freeze | unfreeze | idle =>
    exact ⟨consistent.seen, consistent.settled, consistent.pending⟩
  | dropped held same => cases same.symm.trans (consistent.pending _ held)
  | set | refreshed | restored | applied => exact ⟨nofun, fun _ => ⟨_, rfl, BEq.rfl⟩, nofun⟩
  | unchanged finds same => exact ⟨nofun, fun _ => ⟨_, rfl, same⟩, nofun⟩
  | deferred finds different =>
    refine ⟨nofun, nofun, ?_⟩
    intro value held
    exact Option.some.inj held ▸ different
  | regenerated | quarantined =>
    exact ⟨nofun, fun _ => ⟨_, rfl, BEq.rfl⟩, consistent.pending⟩

theorem run {history : History Config} (consistent : history.slots.IsConsistent)
    (backing : Backing Config) (incidents : List (Incident Config)) :
    (history.run backing incidents).slots.IsConsistent := by
  refine History.run_keeps (fun reached => reached.slots.IsConsistent) ?_ consistent
  intro reached incident _ consistent
  cases incident with
  | operate command => exact consistent.of_turn (backing.perform_turn _ _ command)
  | changeFiles files => exact consistent

end Slots.IsConsistent

structure Outcome.Refreshes (slots : Slots Config) (value : Config) (outcome : Outcome Config) :
    Prop where
  result : outcome.result = .ok (.refreshed true)
  current : outcome.slots.current = value
  version : outcome.slots.version = slots.version + 1
  previous : outcome.slots.previous = some slots.current
  held : outcome.slots.held = none
  announced : outcome.announced = [.modified (slots.version + 1) slots.current value .refresh]
  counts : outcome.counts = [.commit .refresh]

namespace Backing

variable [BEq Config] {backing : Backing Config} {slots : Slots Config} {files : FileSystem}
  {value : Config}

theorem forceRefresh_of_none (nothing : slots.held = none) :
    backing.forceRefresh slots files = .quiet (.ok (.refreshed false)) slots files := by
  simp only [forceRefresh, nothing]

theorem forceRefresh_of_persist {written : FileSystem} {after : Slots Config}
    (held : slots.held = some value) (different : (value == slots.current) = false)
    (wrote : backing.persist slots files value = (written, .ok after)) :
    (backing.forceRefresh slots files).Refreshes slots value := by
  have refreshed : backing.forceRefresh slots files =
      .committed (.refreshed true) { after with held := none } written value .refresh := by
    simp only [forceRefresh, held, different, wrote, Bool.false_eq_true, if_false]
  rw [refreshed, persist_slots wrote]
  exact ⟨rfl, rfl, rfl, rfl, rfl, rfl, rfl⟩

theorem forceRefresh_of_held (held : slots.held = some value)
    (different : (value == slots.current) = false) :
    let outcome := backing.forceRefresh slots files
    outcome.Refreshes slots value ∨ (∃ error, outcome.result = .error error) ∧ outcome.slots = slots := by
  intro outcome
  rcases backing.persist_cases slots files value with
    ⟨error, after, refused, _⟩ | ⟨written, _, wrote⟩
  · have failed : outcome = .quiet (.error error) slots after := by
      simp only [outcome, forceRefresh, held, different, refused, Bool.false_eq_true, if_false]
    rw [failed]
    exact .inr ⟨⟨error, rfl⟩, rfl⟩
  · exact .inl (forceRefresh_of_persist held different wrote)

end Backing

/-- In every history a change is held only if it differs from what is in effect, and without one the
content last seen is in effect.  A forced refresh finds nothing to do just if nothing is held, and otherwise
commits what is held, or fails and goes on holding it. -/
theorem History.slots_stay_consistent [BEq Config] [ReflBEq Config] (backing : Backing Config)
    (defaults : Config) (files : FileSystem) (notifier : Except NotifierError Unit)
    (slots : Slots Config) (loaded : (backing.load defaults files notifier).2 = .ok slots)
    (incidents : List (Incident Config)) :
    let start := History.opened slots (backing.load defaults files notifier).1
    let history := start.run backing incidents
    let outcome := backing.perform history.slots history.files .forceRefresh
    history.slots.IsConsistent ∧
      (outcome.result = .ok (.refreshed false) ↔ history.slots.held = none) ∧
      (history.slots.held = none →
        outcome = .quiet (.ok (.refreshed false)) history.slots history.files) ∧
      ∀ value, history.slots.held = some value →
        outcome.Refreshes history.slots value ∨
          (∃ error, outcome.result = .error error) ∧ outcome.slots = history.slots := by
  intro start history outcome
  obtain ⟨config, rfl⟩ := Backing.load_initial loaded
  have consistent : history.slots.IsConsistent :=
    Slots.IsConsistent.run (.initial config) backing incidents
  have idle (nothing : history.slots.held = none) :
      outcome = .quiet (.ok (.refreshed false)) history.slots history.files :=
    Backing.forceRefresh_of_none nothing
  have acts (value : Config) (held : history.slots.held = some value) :
      outcome.Refreshes history.slots value ∨
        (∃ error, outcome.result = .error error) ∧ outcome.slots = history.slots :=
    Backing.forceRefresh_of_held held (consistent.pending value held)
  refine ⟨consistent, ⟨?_, ?_⟩, idle, acts⟩
  · intro answered
    cases held : history.slots.held with
    | none => rfl
    | some value =>
      rcases acts value held with refreshes | ⟨⟨error, failed⟩, _⟩
      · cases answered.symm.trans refreshes.result
      · cases answered.symm.trans failed
  · intro nothing
    rw [idle nothing]
    rfl

theorem History.slots_stay_consistent_after_refusal :
    let backing : Backing Bytes := ⟨⟨.ok, .ok⟩, ⟨"a"⟩⟩
    let start := History.opened (.initial [1]) (backing.load [1] (.fresh []) (.ok ())).1
    let changed := start.files.put ["a"] (some (.file [4]))
    let full := { changed with refusal := fun access _ =>
      if access = .write then some .storageFull else none }
    let incidents : List (Incident Bytes) :=
      [.operate .freeze, .changeFiles full, .operate .reload, .operate .forceRefresh]
    let history := start.run backing incidents
    let later := start.run backing (incidents ++ [.changeFiles changed])
    history.slots.held = some [4] ∧ history.slots.IsConsistent ∧
      (backing.perform history.slots history.files .forceRefresh).slots = history.slots ∧
      (backing.perform later.slots later.files .forceRefresh).Refreshes later.slots [4] := by
  have loaded : (Backing.load ⟨⟨.ok, .ok⟩, ⟨"a"⟩⟩ [1] (.fresh []) (.ok ())).2 = .ok (.initial [1]) :=
    rfl
  intro backing start changed full incidents history later
  have stays := slots_stay_consistent backing [1] (.fresh []) (.ok ()) (.initial [1]) loaded
  obtain ⟨consistent, _, _, refused⟩ := stays incidents
  obtain ⟨_, _, _, accepted⟩ := stays (incidents ++ [.changeFiles changed])
  have held : history.slots.held = some [4] := by decide +kernel
  have heldLater : later.slots.held = some [4] := by decide +kernel
  refine ⟨held, consistent, ?_, ?_⟩
  · rcases refused [4] held with refreshes | ⟨_, same⟩
    · exact absurd refreshes.version (by decide +kernel)
    · exact same
  · rcases accepted [4] heldLater with refreshes | ⟨_, same⟩
    · exact refreshes
    · exact absurd (congrArg Slots.version same) (by decide +kernel)

theorem Backing.Turn.of_rewrites [BEq Config] {backing : Backing Config} {slots : Slots Config}
    {files : FileSystem} {command : Command Config} {outcome : Outcome Config}
    (turn : backing.Turn slots files command outcome) (rewrites : outcome.rewrites = true) :
    outcome.slots.seen = some slots.current ∧ outcome.slots.held = slots.held := by
  cases turn with
  | regenerated | quarantined => exact ⟨rfl, rfl⟩
  | _ => cases rewrites

def Slots.HeldFromFile (slots : Slots Config) : Prop :=
  ∀ value, slots.held = some value → slots.seen = some value

theorem Slots.HeldFromFile.of_turn [BEq Config] {backing : Backing Config} {slots : Slots Config}
    {files : FileSystem} {command : Command Config} {outcome : Outcome Config}
    (fromFile : slots.HeldFromFile) (turn : backing.Turn slots files command outcome)
    (nothing : outcome.rewrites = true → slots.held = none) : outcome.slots.HeldFromFile := by
  cases turn with
  | failed | canceled | freeze | unfreeze | idle => exact fromFile
  | dropped | set | refreshed | restored | unchanged | applied => exact nofun
  | deferred => exact fun _ held => held
  | regenerated | quarantined =>
    intro value held
    cases held.symm.trans (nothing rfl)

/-- A change that is held is what the file held last, as long as the file is never written anew while a
change is held.  Where that happens, the value in effect becomes what was last seen, and the change, which
is in the file no more, is still held. -/
theorem History.held_from_file_iff [BEq Config] [ReflBEq Config] (backing : Backing Config)
    (defaults : Config) (files : FileSystem) (notifier : Except NotifierError Unit)
    (slots : Slots Config) (loaded : (backing.load defaults files notifier).2 = .ok slots)
    (incidents : List (Incident Config)) :
    let start := History.opened slots (backing.load defaults files notifier).1
    ((∀ earlier, earlier <+: incidents → (start.run backing earlier).slots.HeldFromFile) ↔
      ∀ earlier command, earlier ++ [.operate command] <+: incidents →
        let before := start.run backing earlier
        (backing.perform before.slots before.files command).rewrites = true →
          before.slots.held = none) ∧
    ∀ command,
      let history := start.run backing incidents
      let outcome := backing.perform history.slots history.files command
      outcome.rewrites = true →
        outcome.slots.seen = some history.slots.current ∧ outcome.slots.held = history.slots.held := by
  intro start
  obtain ⟨config, rfl⟩ := Backing.load_initial loaded
  refine ⟨⟨?_, ?_⟩, fun command => (backing.perform_turn _ _ command).of_rewrites⟩
  · intro fromFile earlier command inside before rewrites
    have consistent : before.slots.IsConsistent :=
      Slots.IsConsistent.run (.initial config) backing earlier
    obtain ⟨seen, held⟩ := (backing.perform_turn _ _ command).of_rewrites rewrites
    have after := fromFile _ inside
    rw [run_concat] at after
    cases pending : before.slots.held with
    | none => rfl
    | some value =>
      have there : some before.slots.current = some value :=
        seen.symm.trans (after value (held.trans pending))
      have different := consistent.pending value pending
      rw [← Option.some.inj there, BEq.rfl] at different
      cases different
  · intro nothing earlier
    induction earlier using List.reverseRecOn with
    | nil =>
      intro _
      exact nofun
    | append_singleton earlier incident ih =>
      intro inside
      have fromFile := ih ((List.prefix_append earlier [incident]).trans inside)
      rw [run_concat]
      cases incident with
      | operate command =>
        exact fromFile.of_turn (backing.perform_turn _ _ command) (nothing earlier command inside)
      | changeFiles files => exact fromFile

theorem History.held_from_file_iff_at_quarantine :
    let format : Format Bytes :=
      ⟨.ok, fun content => if content = [123] then .error .malformed else .ok content⟩
    let backing : Backing Bytes := ⟨format, ⟨"a"⟩⟩
    let start := History.opened (.initial [1]) (backing.load [1] (.fresh []) (.ok ())).1
    let holding (content : Bytes) := start.files.put ["a"] (some (.file content))
    let incidents : List (Incident Bytes) :=
      [.operate .freeze, .changeFiles (holding [4]), .operate .reload, .changeFiles (holding [123])]
    let history := start.run backing incidents
    let outcome := backing.perform history.slots history.files .reload
    outcome.rewrites = true ∧ outcome.slots.seen = some [1] ∧ outcome.slots.held = some [4] ∧
      ¬∀ earlier, earlier <+: incidents ++ [.operate .reload] →
        (start.run backing earlier).slots.HeldFromFile := by
  intro format backing start holding incidents history outcome
  have loaded : (backing.load [1] (.fresh []) (.ok ())).2 = .ok (.initial [1]) := by
    simp only [backing, format]
    rfl
  have fromFile := held_from_file_iff backing [1] (.fresh []) (.ok ()) (.initial [1]) loaded
  have rewrites : outcome.rewrites = true := by decide +kernel
  have pending : history.slots.held = some [4] := by decide +kernel
  obtain ⟨seen, held⟩ := (fromFile incidents).2 .reload rewrites
  refine ⟨rewrites, seen.trans (by decide +kernel), held.trans pending, ?_⟩
  intro always
  have nothing : history.slots.held = none :=
    (fromFile (incidents ++ [.operate .reload])).1.mp always incidents .reload (List.prefix_refl _)
      rewrites
  cases pending.symm.trans nothing

/-- A change is held, is removed with the file, and is forced into effect. -/
theorem History.held_change_outlives_file :
    let backing : Backing AppConfig := ⟨AppConfig.codec.format, ⟨"a"⟩⟩
    let loaded := backing.load ⟨":9999", 1⟩ (.fresh []) (.ok ())
    let start := History.opened (.initial ⟨":9999", 1⟩) loaded.1
    let changed := start.files.put ["a"]
      (some (.file (Text.bytes "\x7b\"addr\": \"b:2\", \"workers\": 2\x7d")))
    let history := start.run backing [.operate .freeze, .changeFiles changed, .operate .reload,
      .changeFiles (changed.put ["a"] none), .operate .reload]
    loaded.2 = .ok start.slots ∧
      history.files.read ⟨"a"⟩ = .ok (AppConfig.codec.encode ⟨":9999", 1⟩) ∧
      history.slots.seen = some ⟨":9999", 1⟩ ∧ ¬history.slots.HeldFromFile ∧
      (history.after backing (.operate .forceRefresh)).slots.current = ⟨"b:2", 2⟩ := by
  have loaded : (Backing.load ⟨AppConfig.codec.format, ⟨"a"⟩⟩ ⟨":9999", 1⟩ (.fresh []) (.ok ())).2 =
      .ok (.initial ⟨":9999", 1⟩) :=
    rfl
  intro backing _ start changed history
  have seen : history.slots.seen = some ⟨":9999", 1⟩ := by decide +kernel
  have held : history.slots.held = some ⟨"b:2", 2⟩ := by decide +kernel
  refine ⟨loaded, by decide +kernel, seen, ?_, by decide +kernel⟩
  intro fromFile
  exact absurd (fromFile _ held) (by decide +kernel)

end LiveService
