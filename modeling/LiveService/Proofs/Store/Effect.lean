import LiveService.Proofs.Store.Turn

/-!
What an operation can do to the value in effect: nothing, commit another one, or bring the previous one
back.  Each change comes with one announcement and one count of its own.
-/

namespace LiveService

variable {Config : Type}

structure Transition (Config : Type) where
  version : Nat
  former : Config
  latter : Config

def Event.transition? : Event Config → Option (Transition Config)
  | .modified version former latter _ => some ⟨version, former, latter⟩
  | .restored version latter former => some ⟨version, former, latter⟩
  | .canceled _ => none

/-- What an operation on `slots` has done to the value in effect. -/
inductive Effect (slots : Slots Config) (outcome : Outcome Config) : Prop where
  | kept
      (version : outcome.slots.version = slots.version)
      (current : outcome.slots.current = slots.current)
      (previous : outcome.slots.previous = slots.previous)
      (untold : ∀ event ∈ outcome.events, event.transition? = none)
      (lateEvents : outcome.lateEvents = [])
      (counts : outcome.counts = [] ∨ outcome.counts = [.quarantine])
  | committed (source : Source)
      (version : outcome.slots.version = slots.version + 1)
      (previous : outcome.slots.previous = some slots.current)
      (events : outcome.events =
        [.modified outcome.slots.version slots.current outcome.slots.current source])
      (lateEvents : outcome.lateEvents = [])
      (counts : outcome.counts = [.commit source])
  | restored
      (former : slots.previous = some outcome.slots.current)
      (version : outcome.slots.version = slots.version + 1)
      (previous : outcome.slots.previous = none)
      (events : outcome.events = [])
      (lateEvents : outcome.lateEvents =
        [.restored outcome.slots.version outcome.slots.current slots.current])
      (counts : outcome.counts = [.restore])

structure Outcome.IsSilent (slots : Slots Config) (outcome : Outcome Config) : Prop where
  version : outcome.slots.version = slots.version
  current : outcome.slots.current = slots.current
  previous : outcome.slots.previous = slots.previous
  frozen : outcome.slots.frozen = slots.frozen
  untold : outcome.announced = []

/-- A look at the file that led to nothing but, at most, a file written anew from the current value. -/
structure Outcome.KeepsValues (slots : Slots Config) (outcome : Outcome Config) : Prop
    extends outcome.IsSilent slots where
  held : outcome.slots.held = slots.held
  answer : ∀ answer, outcome.result = .ok answer → answer = .reloaded .quarantined

namespace Effect

theorem quiet {slots after : Slots Config} (result : Except ConfigError Answer)
    (files : FileSystem) (version : after.version = slots.version)
    (current : after.current = slots.current) (previous : after.previous = slots.previous) :
    Effect slots (.quiet result after files) :=
  .kept version current previous (by simp [Outcome.quiet]) rfl (.inl rfl)

theorem commit {slots before : Slots Config} (answer : Answer) (files : FileSystem)
    (next : Config) (source : Source) (version : before.version = slots.version)
    (current : before.current = slots.current) :
    Effect slots (.committed answer before files next source) := by
  refine .committed source ?_ ?_ ?_ rfl rfl
  · simp [Outcome.committed, Slots.commit, version]
  · simp [Outcome.committed, Slots.commit, current]
  · simp [Outcome.committed, Slots.commit, current]

end Effect

namespace Backing

variable {backing : Backing Config} {slots after : Slots Config} {files written : FileSystem}
  {value : Config}

theorem persist_slots (wrote : backing.persist slots files value = (written, .ok after)) :
    after = { slots with seen := some value } := by
  rcases backing.persist_cases slots files value with ⟨_, _, refused, _⟩ | ⟨_, _, done⟩
  · cases wrote.symm.trans refused
  · cases wrote.symm.trans done
    rfl

theorem discard_keepsValues (backing : Backing Config) (slots : Slots Config) (files : FileSystem)
    (content : Bytes) : (backing.discard slots files content).KeepsValues slots := by
  unfold discard
  split
  · exact ⟨⟨rfl, rfl, rfl, rfl, rfl⟩, rfl, nofun⟩
  · split
    · exact ⟨⟨rfl, rfl, rfl, rfl, rfl⟩, rfl, nofun⟩
    · rename_i wrote
      rw [persist_slots wrote]
      refine ⟨⟨rfl, rfl, rfl, rfl, rfl⟩, rfl, ?_⟩
      intro answer succeeded
      exact (Except.ok.inj succeeded).symm

variable [BEq Config]

theorem Turn.effect {command : Command Config} {outcome : Outcome Config}
    (turn : backing.Turn slots files command outcome) : Effect slots outcome := by
  cases turn with
  | failed | freeze | unfreeze | idle | dropped | unchanged | deferred | regenerated =>
    exact .quiet _ _ rfl rfl rfl
  | canceled => exact .kept rfl rfl rfl (by simp [Event.transition?]) rfl (.inl rfl)
  | set | refreshed | applied => exact .commit _ _ _ _ rfl rfl
  | restored there => exact .restored there rfl rfl rfl rfl rfl
  | quarantined => exact .kept rfl rfl rfl (by simp) rfl (.inr rfl)

theorem perform_effect (backing : Backing Config) (slots : Slots Config) (files : FileSystem)
    (command : Command Config) : Effect slots (backing.perform slots files command) :=
  (backing.perform_turn slots files command).effect

end Backing

end LiveService
