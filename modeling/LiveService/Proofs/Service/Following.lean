import LiveService.Proofs.Service.Beginning

/-!
The settings follow the configuration by the differences that they are told of.  They come to agree with the value in
effect if they hear of all that has changed since they read it, in the order of the versions, and if every level on
the way can be set; each of these conditions is needed.
-/

namespace LiveService

def ServiceConfig.hasUsableLevel (config : ServiceConfig) : Bool :=
  (Filter.ofLevel config.observability.logLevel).isOk

namespace Settings

/-- The schedule is that of a configuration, and so is the level, if the log follows any. -/
structure Agrees (settings : Settings) (config : ServiceConfig) : Prop where
  schedule : settings.schedule = scheduleOf config
  level : settings.followsLevel = true → settings.level = some config.observability.logLevel

instance (settings : Settings) (config : ServiceConfig) : Decidable (settings.Agrees config) :=
  decidable_of_iff
    (settings.schedule = scheduleOf config ∧
      (settings.followsLevel = true → settings.level = some config.observability.logLevel))
    ⟨fun agreed => ⟨agreed.1, agreed.2⟩, fun agreed => ⟨agreed.schedule, agreed.level⟩⟩

variable {settings leveled adopted : Settings} {level : String} {config former latter : ServiceConfig}

theorem setLevel?_leaves (set : settings.setLevel? level = some leveled) :
    leveled.followsLevel = settings.followsLevel ∧ leveled.schedule = settings.schedule ∧
      (settings.followsLevel = true → leveled.level = some level) := by
  unfold setLevel? at set
  split at set
  · obtain ⟨filter, _, rfl⟩ := Option.map_eq_some_iff.mp set
    exact ⟨rfl, rfl, fun _ => rfl⟩
  · rename_i fixed
    cases Option.some.inj set
    exact ⟨rfl, rfl, fun follows => absurd follows fixed⟩

theorem exists_setLevel? (usable : settings.followsLevel = true → config.hasUsableLevel = true) :
    ∃ leveled, settings.setLevel? config.observability.logLevel = some leveled := by
  unfold setLevel?
  split
  · rename_i follows
    have readable := usable follows
    unfold ServiceConfig.hasUsableLevel at readable
    cases read : Filter.ofLevel config.observability.logLevel with
    | error fault =>
      rw [read] at readable
      cases readable
    | ok filter => exact ⟨_, rfl⟩
  · exact ⟨settings, rfl⟩

theorem adopt?_agrees (adopts : settings.adopt? config = some adopted) (unscheduled : settings.schedule = none) :
    adopted.followsLevel = settings.followsLevel ∧ adopted.Agrees config := by
  obtain ⟨leveled, set, rfl⟩ := Option.map_eq_some_iff.mp adopts
  obtain ⟨follows, schedule, applied⟩ := setLevel?_leaves set
  split
  · exact ⟨follows, rfl, fun following => applied (follows ▸ following)⟩
  · rename_i disabled
    refine ⟨follows, ?_, fun following => applied (follows ▸ following)⟩
    rw [schedule, unscheduled, scheduleOf, if_neg disabled]

theorem change_agrees (event : String) (usable : settings.followsLevel = true → latter.hasUsableLevel = true)
    (agreed : settings.Agrees former ∨ settings.Agrees latter) :
    (settings.change event former latter).followsLevel = settings.followsLevel ∧
      (settings.change event former latter).Agrees latter := by
  have leveling : ∃ leveled,
      (if former.observability.logLevel = latter.observability.logLevel then some settings
        else settings.setLevel? latter.observability.logLevel) = some leveled ∧
      leveled.followsLevel = settings.followsLevel ∧ leveled.schedule = settings.schedule ∧
      (settings.followsLevel = true → leveled.level = some latter.observability.logLevel) := by
    split
    · rename_i same
      refine ⟨settings, rfl, rfl, rfl, fun follows => ?_⟩
      rcases agreed with before | after
      · rw [before.level follows, same]
      · exact after.level follows
    · obtain ⟨leveled, set⟩ := exists_setLevel? usable
      exact ⟨leveled, set, setLevel?_leaves set⟩
  obtain ⟨leveled, applied, follows, schedule, level⟩ := leveling
  simp only [change, applied]
  split
  · rename_i same
    refine ⟨follows, ?_, fun following => level (follows ▸ following)⟩
    rw [schedule]
    rcases agreed with before | after
    · rw [before.schedule, scheduleOf, scheduleOf, same]
    · exact after.schedule
  · exact ⟨follows, rfl, fun following => level (follows ▸ following)⟩

theorem follow_agrees {event : Event ServiceConfig} {change : Transition ServiceConfig}
    (told : event.transition? = some change)
    (usable : settings.followsLevel = true → change.latter.hasUsableLevel = true)
    (agreed : settings.Agrees change.former ∨ settings.Agrees change.latter) :
    (settings.follow event).followsLevel = settings.followsLevel ∧
      (settings.follow event).Agrees change.latter := by
  cases event with
  | modified version previous current source =>
    cases Option.some.inj told
    exact change_agrees _ usable agreed
  | restored version restored discarded =>
    cases Option.some.inj told
    exact change_agrees _ usable agreed
  | canceled reason => cases told

theorem follow_of_silent {event : Event ServiceConfig} (silent : event.transition? = none) :
    settings.follow event = settings := by
  cases event with
  | canceled reason => rfl
  | modified | restored => cases silent

end Settings

namespace Site

/-- Once all that was announced has been delivered, the schedule is that of the value in effect, and so is the level
that was applied last if the log follows any.  Nothing may change between the reading of the configuration and the
subscription, the changes have to arrive in the order of their versions, and each level that they bring has to be
one that can be set. -/
theorem settings_follow_configuration (path : Path) (followsLevel : Bool) (files : FileSystem)
    (outside : FileSystem → Surroundings) (meanwhile : Meanwhile) (begun : Begun)
    (moves : List (Move ServiceConfig)) (reached : Site)
    (begins : Site.begin? path followsLevel files outside meanwhile = some begun)
    (run : begun.ready.run Settings.follow moves = some reached) (delivered : reached.underway = [])
    (undisturbed : begun.followed.store.slots.version = begun.read.store.slots.version)
    (ordered : (begun.start :: transitions (begun.told moves)).Pairwise fun earlier later =>
      earlier.version ≤ later.version)
    (usable : followsLevel = true →
      ∀ change ∈ transitions (begun.told moves), change.latter.hasUsableLevel = true) :
    reached.settings.followsLevel = followsLevel ∧
      reached.settings.Agrees reached.store.slots.current := by
  obtain ⟨adopted, sound⟩ := begin?_isSound begins
  obtain ⟨follows, adoptedAgrees⟩ := Settings.adopt?_agrees sound.adopts rfl
  obtain ⟨settings, reachedBy, covered⟩ := sound.run (Nat.le_of_eq undisturbed) run delivered
  let agrees (config : ServiceConfig) (settings : Settings) : Prop :=
    settings.followsLevel = followsLevel ∧ settings.Agrees config
  change agrees reached.store.slots.current reached.settings
  rw [settings]
  refine Slots.IsReachedBy.agrees ?_ ?_ begun.start adopted ⟨follows, adoptedAgrees⟩ reachedBy covered ordered
  · intro event _ silent settings
    exact Settings.follow_of_silent silent
  · intro event member change told settings agreed
    have follows : settings.followsLevel = followsLevel := agreed.elim And.left And.left
    have usable (following : settings.followsLevel = true) : change.latter.hasUsableLevel = true :=
      usable (follows ▸ following) change (Deployment.mem_transitions.mpr ⟨event, member, told⟩)
    obtain ⟨still, agreesNow⟩ :=
      Settings.follow_agrees told usable (agreed.imp And.right And.right)
    exact ⟨still.trans follows, agreesNow⟩

theorem settings_follow_configuration_through_three_changes :
    let outside (files : FileSystem) : Surroundings := ⟨files, fun _ => .ok [], .ok, fun _ _ => .ok ()⟩
    let scheduled : ServiceConfig := { refresh := { enabled := true } }
    let verbose : ServiceConfig := { scheduled with observability := { logLevel := "debug" } }
    let meanwhile : Meanwhile := { building := [.operate (.set scheduled)] }
    let moves : List (Move ServiceConfig) :=
      [.deliver 0, .operate .restore, .announce 0, .deliver 0, .start, .operate (.set verbose), .deliver 0]
    ∃ begun reached, Site.begin? ⟨"a"⟩ true (.fresh []) outside meanwhile = some begun ∧
      begun.ready.run Settings.follow moves = some reached ∧ reached.store.slots.current = verbose ∧
      reached.settings.schedule = some .standard ∧ reached.settings.level = some "debug" := by
  intro outside scheduled verbose meanwhile moves
  have story : ∃ begun reached, Site.begin? ⟨"a"⟩ true (.fresh []) outside meanwhile = some begun ∧
      begun.ready.run Settings.follow moves = some reached ∧ reached.underway = [] ∧
      begun.followed.store.slots.version = begun.read.store.slots.version ∧
      ((begun.start :: transitions (begun.told moves)).Pairwise fun earlier later =>
        earlier.version ≤ later.version) ∧
      (∀ change ∈ transitions (begun.told moves), change.latter.hasUsableLevel = true) ∧
      reached.store.slots.current = verbose := by
    refine exists_story ?_
    decide +kernel
  obtain ⟨begun, reached, begins, run, delivered, undisturbed, ordered, usable, current⟩ := story
  obtain ⟨follows, agrees⟩ := settings_follow_configuration _ true _ outside meanwhile begun moves reached begins run
    delivered undisturbed ordered fun _ => usable
  rw [current] at agrees
  exact ⟨begun, reached, begins, run, current, agrees.schedule, agrees.level follows⟩

/-- A level with a blank that takes more than one byte in front of a directive cannot be set.  The change that brings
it is abandoned as a whole, and so the schedule stays behind with the level. -/
theorem torn_level_stops_settings :
    let outside (files : FileSystem) : Surroundings := ⟨files, fun _ => .ok [], .ok, fun _ _ => .ok ()⟩
    let torn : ServiceConfig :=
      { refresh := { enabled := true }, observability := { logLevel := "debug,\u3000a=debug" } }
    let moves : List (Move ServiceConfig) := [.operate (.set torn), .deliver 0]
    ∃ begun reached, Site.begin? ⟨"a"⟩ true (.fresh []) outside {} = some begun ∧
      begun.ready.run Settings.follow moves = some reached ∧ reached.underway = [] ∧
      begun.followed.store.slots.version = begun.read.store.slots.version ∧
      ((begun.start :: transitions (begun.told moves)).Pairwise fun earlier later =>
        earlier.version ≤ later.version) ∧
      reached.store.slots.current = torn ∧ reached.settings.schedule = none ∧
      reached.settings.level = some "info" := by
  intro outside torn moves
  refine exists_story ?_
  decide +kernel

theorem overtaken_change_stands :
    let outside (files : FileSystem) : Surroundings := ⟨files, fun _ => .ok [], .ok, fun _ _ => .ok ()⟩
    let scheduled : ServiceConfig := { refresh := { enabled := true } }
    let moves : List (Move ServiceConfig) :=
      [.operate (.set scheduled), .operate (.set {}), .deliver 1, .deliver 0]
    ∃ begun reached, Site.begin? ⟨"a"⟩ false (.fresh []) outside {} = some begun ∧
      begun.ready.run Settings.follow moves = some reached ∧ reached.underway = [] ∧
      begun.followed.store.slots.version = begun.read.store.slots.version ∧
      reached.store.slots.current = {} ∧ reached.settings.schedule = some .standard := by
  intro outside scheduled moves
  refine exists_story ?_
  decide +kernel

theorem change_before_subscription_is_missed :
    let outside (files : FileSystem) : Surroundings := ⟨files, fun _ => .ok [], .ok, fun _ _ => .ok ()⟩
    let scheduled : ServiceConfig := { refresh := { enabled := true } }
    let meanwhile : Meanwhile := { adopting := [.operate (.set scheduled)] }
    ∃ begun reached, Site.begin? ⟨"a"⟩ false (.fresh []) outside meanwhile = some begun ∧
      begun.ready.run Settings.follow [] = some reached ∧ reached.underway = [] ∧
      reached.store.slots.current = scheduled ∧ reached.settings.schedule = none := by
  intro outside scheduled meanwhile
  refine exists_story ?_
  decide +kernel

end Site

end LiveService
