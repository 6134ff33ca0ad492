import LiveService.Proofs.Net.Step

/-!
No change of the configuration is missed.  A listener that waits either serves the value in effect, or
something is under way that will wake it: its reload mark, a call that has started, or an event that is not
announced yet.
-/

namespace LiveService

structure Listener.LaunchedLast {Config : Type} (listener : Listener Config) (version : Nat)
    (config : Config) : Prop where
  newest : listener.version = version
  recorded : listener.launches.head? = some (version, config)

namespace Deployment

variable {Config Settings : Type}

def IsSubscribed (deployment : Deployment Config Settings) : Prop :=
  ∀ event : Event Config, event.transition? ≠ none →
    ∃ id, (id, Follower.listener) ∈ deployment.store.subscriptions.calls event

def untold (deployment : Deployment Config Settings) : List (Event Config) :=
  deployment.store.withheld ++ deployment.unannounced

def IsCalled (deployment : Deployment Config Settings) : Prop :=
  deployment.listener.reload = true ∨ ∃ event, (Follower.listener, event) ∈ deployment.calls

def WillWake (deployment : Deployment Config Settings) : Prop :=
  deployment.IsCalled ∨ ∃ event ∈ deployment.untold, event.transition? ≠ none

structure IsQuiet (deployment : Deployment Config Settings) : Prop where
  released : deployment.store.withheld = []
  announced : deployment.unannounced = []
  delivered : ∀ event, (Follower.listener, event) ∉ deployment.calls
  seen : deployment.listener.reload = false

theorem IsQuiet.not_willWake {deployment : Deployment Config Settings} (quiet : deployment.IsQuiet) :
    ¬deployment.WillWake := by
  rintro ((reload | ⟨event, called⟩) | ⟨event, untold, _⟩)
  · exact absurd (quiet.seen.symm.trans reload) (by decide)
  · exact quiet.delivered event called
  · rw [Deployment.untold, quiet.released, quiet.announced] at untold
    exact absurd untold List.not_mem_nil

/-- A snapshot that was taken of the store, and that is the value in effect unless the listener will be
woken. -/
structure Tracks (deployment : Deployment Config Settings) (version : Nat) (config : Config) :
    Prop where
  past : version ≤ deployment.store.slots.version
  value : version = deployment.store.slots.version → config = deployment.store.slots.current
  fresh : version = deployment.store.slots.version ∨ deployment.WillWake

def MissesNothing (deployment : Deployment Config Settings) : Prop :=
  let listener := deployment.listener
  match listener.stage with
  | .fresh => listener.server = none
  | .subscribing _ =>
    listener.server = none ∧ ∃ id, (id, Follower.listener) ∈ deployment.store.subscriptions.modified
  | .reading => listener.server = none ∧ deployment.IsSubscribed
  | .launching _ version config =>
    listener.server = none ∧ deployment.IsSubscribed ∧ deployment.Tracks version config ∧
      listener.LaunchedLast version config
  | .failed _ _ => listener.server = none ∧ deployment.IsSubscribed
  | .rollingBack _ _ => listener.server = none ∧ deployment.IsSubscribed
  | .announcing _ event =>
    listener.server = none ∧ deployment.IsSubscribed ∧ event.transition? ≠ none
  | .waiting =>
    deployment.IsSubscribed ∧
      match listener.server with
      | none => deployment.IsCalled
      | some server =>
        deployment.Tracks server.version server.config ∧
          listener.LaunchedLast server.version server.config
  | .closing (some (version, config)) =>
    deployment.IsSubscribed ∧ deployment.Tracks version config
  | .closing none => True
  | .leaving _ _ => True
  | .ended => True

theorem tracks_current (deployment : Deployment Config Settings) :
    deployment.Tracks deployment.store.slots.version deployment.store.slots.current :=
  ⟨Nat.le_refl _, fun _ => rfl, .inl rfl⟩

theorem Tracks.congr {deployment next : Deployment Config Settings} {version : Nat} {config : Config}
    (tracks : deployment.Tracks version config) (slots : next.store.slots = deployment.store.slots)
    (reload : next.listener.reload = deployment.listener.reload)
    (calls : next.calls = deployment.calls) (untold : next.untold = deployment.untold) :
    next.Tracks version config := by
  obtain ⟨past, value, fresh⟩ := tracks
  rw [← slots] at past value fresh
  unfold WillWake IsCalled at fresh
  rw [← reload, ← calls, ← untold] at fresh
  exact ⟨past, value, fresh⟩

theorem IsSubscribed.tell {deployment : Deployment Config Settings} {event : Event Config}
    {events : List (Event Config)} (subscribed : deployment.IsSubscribed)
    (change : event.transition? ≠ none) (member : event ∈ events) :
    (Follower.listener, event) ∈ (deployment.tell events).calls := by
  obtain ⟨id, registered⟩ := subscribed event change
  simp only [Deployment.tell, List.mem_append]
  right
  simp only [ConfigStore.calls, List.mem_flatMap, List.mem_map]
  exact ⟨event, member, (id, .listener), registered, rfl⟩

/-- `next` differs from `deployment` in nothing that the listener does or goes by, except that the value in
effect may have changed, of which the listener will be told. -/
structure Carries (deployment next : Deployment Config Settings) : Prop where
  stage : next.listener.stage = deployment.listener.stage
  server : next.listener.server = deployment.listener.server
  version : next.listener.version = deployment.listener.version
  launches : next.listener.launches = deployment.listener.launches
  subscriptions : next.store.subscriptions = deployment.store.subscriptions
  called : deployment.IsCalled → next.IsCalled
  untold : deployment.IsSubscribed →
    (∃ event ∈ deployment.untold, event.transition? ≠ none) → next.WillWake
  slots : deployment.IsSubscribed →
    next.store.slots.version = deployment.store.slots.version ∧
      next.store.slots.current = deployment.store.slots.current ∨
    deployment.store.slots.version < next.store.slots.version ∧ next.WillWake

namespace Carries

variable {deployment next : Deployment Config Settings}

theorem isSubscribed (carries : Carries deployment next) (subscribed : deployment.IsSubscribed) :
    next.IsSubscribed := by
  unfold IsSubscribed
  rw [carries.subscriptions]
  exact subscribed

theorem launchedLast {version : Nat} {config : Config} (carries : Carries deployment next)
    (last : deployment.listener.LaunchedLast version config) :
    next.listener.LaunchedLast version config :=
  ⟨carries.version.trans last.newest, by rw [carries.launches, last.recorded]⟩

theorem wakes (carries : Carries deployment next) (subscribed : deployment.IsSubscribed)
    (wakes : deployment.WillWake) : next.WillWake := by
  rcases wakes with called | untold
  · exact .inl (carries.called called)
  · exact carries.untold subscribed untold

theorem tracks {version : Nat} {config : Config} (carries : Carries deployment next)
    (subscribed : deployment.IsSubscribed) (tracks : deployment.Tracks version config) :
    next.Tracks version config := by
  rcases carries.slots subscribed with ⟨sameVersion, sameCurrent⟩ | ⟨newer, wakes⟩
  · constructor
    · rw [sameVersion]
      exact tracks.past
    · rw [sameVersion, sameCurrent]
      exact tracks.value
    · rw [sameVersion]
      exact tracks.fresh.imp_right (carries.wakes subscribed)
  · have older := Nat.lt_of_le_of_lt tracks.past newer
    exact ⟨Nat.le_of_lt older, fun equal => absurd equal (Nat.ne_of_lt older), .inr wakes⟩

theorem trans {last : Deployment Config Settings} (carries : Carries deployment next)
    (further : Carries next last) : Carries deployment last where
  stage := further.stage.trans carries.stage
  server := further.server.trans carries.server
  version := further.version.trans carries.version
  launches := further.launches.trans carries.launches
  subscriptions := further.subscriptions.trans carries.subscriptions
  called := fun called => further.called (carries.called called)
  untold := fun subscribed untold =>
    further.wakes (carries.isSubscribed subscribed) (carries.untold subscribed untold)
  slots := by
    intro subscribed
    have subscribedNext := carries.isSubscribed subscribed
    rcases carries.slots subscribed, further.slots subscribedNext with
      ⟨⟨version, current⟩ | ⟨newer, wakes⟩, ⟨lastVersion, lastCurrent⟩ | ⟨lastNewer, lastWakes⟩⟩
    · exact .inl ⟨lastVersion.trans version, lastCurrent.trans current⟩
    · exact .inr ⟨version ▸ lastNewer, lastWakes⟩
    · exact .inr ⟨lastVersion ▸ newer, further.wakes subscribedNext wakes⟩
    · exact .inr ⟨Nat.lt_trans newer lastNewer, lastWakes⟩

theorem missesNothing (carries : Carries deployment next) (held : deployment.MissesNothing) :
    next.MissesNothing := by
  unfold MissesNothing at held ⊢
  dsimp only at held ⊢
  rw [carries.stage, carries.server, carries.subscriptions]
  cases stage : deployment.listener.stage with
  | fresh => simpa only [stage] using held
  | subscribing modified => simpa only [stage] using held
  | reading =>
    simp only [stage] at held ⊢
    exact ⟨held.1, carries.isSubscribed held.2⟩
  | launching origin version config =>
    simp only [stage] at held ⊢
    obtain ⟨down, subscribed, tracks, last⟩ := held
    exact ⟨down, carries.isSubscribed subscribed, carries.tracks subscribed tracks,
      carries.launchedLast last⟩
  | failed origin error =>
    simp only [stage] at held ⊢
    exact ⟨held.1, carries.isSubscribed held.2⟩
  | rollingBack origin error =>
    simp only [stage] at held ⊢
    exact ⟨held.1, carries.isSubscribed held.2⟩
  | announcing origin event =>
    simp only [stage] at held ⊢
    exact ⟨held.1, carries.isSubscribed held.2.1, held.2.2⟩
  | waiting =>
    simp only [stage] at held ⊢
    refine ⟨carries.isSubscribed held.1, ?_⟩
    cases serving : deployment.listener.server with
    | none =>
      simp only [serving] at held ⊢
      exact carries.called held.2
    | some server =>
      simp only [serving] at held ⊢
      exact ⟨carries.tracks held.1 held.2.1, carries.launchedLast held.2.2⟩
  | closing target =>
    cases target with
    | none => trivial
    | some snapshot =>
      simp only [stage] at held ⊢
      exact ⟨carries.isSubscribed held.1, carries.tracks held.1 held.2⟩
  | leaving | ended => trivial

end Carries

theorem IsCalled.append {deployment : Deployment Config Settings}
    (called : deployment.IsCalled) (more : List (Follower × Event Config)) :
    deployment.listener.reload = true ∨
      ∃ event, (Follower.listener, event) ∈ deployment.calls ++ more := by
  rcases called with reload | ⟨event, called⟩
  · exact .inl reload
  · exact .inr ⟨event, List.mem_append_left _ called⟩

theorem carries_enact [BEq Config] (deployment : Deployment Config Settings)
    (command : Command Config) (free : deployment.store.withheld = []) :
    Carries deployment (deployment.enact command) := by
  let outcome :=
    deployment.store.backing.perform deployment.store.slots deployment.files command
  have effect : Effect deployment.store.slots outcome :=
    deployment.store.backing.perform_effect _ _ command
  have untold : (deployment.enact command).untold =
      outcome.events ++ (deployment.unannounced ++ outcome.lateEvents) := rfl
  refine ⟨rfl, rfl, rfl, rfl, rfl, fun called => called.append _, ?_, ?_⟩
  · rintro _ ⟨event, late, change⟩
    refine .inr ⟨event, ?_, change⟩
    rw [Deployment.untold, free, List.nil_append] at late
    rw [untold]
    exact List.mem_append_right _ (List.mem_append_left _ late)
  · intro _
    -- A commit withholds its event, and a restore leaves it unannounced.
    cases effect with
    | kept version current => exact .inl ⟨version, current⟩
    | committed source version _ events =>
      let event : Event Config :=
        .modified outcome.slots.version deployment.store.slots.current outcome.slots.current source
      refine .inr ⟨?_, .inr ⟨event, ?_, by simp [event, Event.transition?]⟩⟩
      · change _ < outcome.slots.version
        omega
      · rw [untold, events]
        exact List.mem_append_left _ (List.mem_singleton_self _)
    | restored _ version _ _ lateEvents =>
      let event : Event Config :=
        .restored outcome.slots.version outcome.slots.current deployment.store.slots.current
      refine .inr ⟨?_, .inr ⟨event, ?_, by simp [event, Event.transition?]⟩⟩
      · change _ < outcome.slots.version
        omega
      · rw [untold, lateEvents]
        exact List.mem_append_right _ (List.mem_append_right _ (List.mem_singleton_self _))

theorem carries_release (deployment : Deployment Config Settings) :
    Carries deployment
      (({ deployment with store := deployment.store.released }).tell deployment.store.withheld) := by
  refine ⟨rfl, rfl, rfl, rfl, rfl, fun called => called.append _, ?_, fun _ => .inl ⟨rfl, rfl⟩⟩
  rintro subscribed ⟨event, late, change⟩
  rcases List.mem_append.mp late with withheld | unannounced
  · let rest := { deployment with store := deployment.store.released }
    have subscribedStill : rest.IsSubscribed := subscribed
    exact .inl (.inr ⟨event, subscribedStill.tell change withheld⟩)
  · exact .inr ⟨event, unannounced, change⟩

theorem operate_eq_enact [BEq Config] (deployment : Deployment Config Settings)
    (command : Command Config) (free : deployment.store.withheld = []) :
    (deployment.operate command).1 =
      ({ deployment.enact command with store := (deployment.enact command).store.released }).tell
        (deployment.enact command).store.withheld := by
  simp [operate, enact, settle, tell, ConfigStore.perform, ConfigStore.calls, ConfigStore.released,
    free]

theorem carries_operate [BEq Config] (deployment : Deployment Config Settings)
    (command : Command Config) (free : deployment.store.withheld = []) :
    Carries deployment (deployment.operate command).1 := by
  rw [operate_eq_enact deployment command free]
  exact (carries_enact deployment command free).trans (carries_release _)

theorem eq_or_mem_eraseIdx {α : Type} {list : List α} {index : Nat} {taken other : α}
    (found : list[index]? = some taken) (member : other ∈ list) :
    other = taken ∨ other ∈ list.eraseIdx index := by
  obtain ⟨position, present⟩ := List.mem_iff_getElem?.mp member
  by_cases same : position = index
  · subst same
    exact .inl (Option.some.inj (present.symm.trans found))
  · exact .inr (List.mem_eraseIdx_iff_getElem?.mpr ⟨position, same, present⟩)

theorem carries_announce {deployment : Deployment Config Settings} {index : Nat}
    {event : Event Config} (found : deployment.unannounced[index]? = some event) :
    Carries deployment
      (({ deployment with unannounced := deployment.unannounced.eraseIdx index }).tell
        [event]) := by
  refine ⟨rfl, rfl, rfl, rfl, rfl, fun called => called.append _, ?_, fun _ => .inl ⟨rfl, rfl⟩⟩
  rintro subscribed ⟨other, late, change⟩
  rcases List.mem_append.mp late with withheld | unannounced
  · exact .inr ⟨other, List.mem_append_left _ withheld, change⟩
  · rcases eq_or_mem_eraseIdx found unannounced with same | left
    · subst same
      let rest := { deployment with unannounced := deployment.unannounced.eraseIdx index }
      have subscribedStill : rest.IsSubscribed := subscribed
      exact .inl (.inr ⟨other, subscribedStill.tell change (List.mem_singleton_self other)⟩)
    · exact .inr ⟨other, List.mem_append_right _ left, change⟩

theorem carries_tellListener (deployment : Deployment Config Settings) (index : Nat) :
    Carries deployment
      { deployment with
        calls := deployment.calls.eraseIdx index
        listener := { deployment.listener with reload := true } } :=
  ⟨rfl, rfl, rfl, rfl, rfl, fun _ => .inl rfl, fun _ untold => .inr untold, fun _ => .inl ⟨rfl, rfl⟩⟩

theorem carries_tellSettings {deployment : Deployment Config Settings} {index : Nat}
    {event : Event Config} (found : deployment.calls[index]? = some (.settings, event))
    (settings : Settings) :
    Carries deployment
      { deployment with calls := deployment.calls.eraseIdx index, settings := settings } := by
  refine ⟨rfl, rfl, rfl, rfl, rfl, ?_, fun _ untold => .inr untold, fun _ => .inl ⟨rfl, rfl⟩⟩
  rintro (reload | ⟨other, called⟩)
  · exact .inl reload
  · rcases eq_or_mem_eraseIdx found called with same | left
    · cases same
    · exact .inr ⟨other, left⟩

theorem carries_changeFiles (deployment : Deployment Config Settings) (files : FileSystem) :
    Carries deployment { deployment with files := files } :=
  ⟨rfl, rfl, rfl, rfl, rfl, id, fun _ untold => .inr untold, fun _ => .inl ⟨rfl, rfl⟩⟩

theorem carries_askToStop (deployment : Deployment Config Settings) :
    Carries deployment deployment.askToStop := by
  unfold askToStop
  split
  · exact ⟨rfl, rfl, rfl, rfl, rfl, id, fun _ untold => .inr untold, fun _ => .inl ⟨rfl, rfl⟩⟩
  · exact ⟨rfl, rfl, rfl, rfl, rfl, id, fun _ untold => .inr untold, fun _ => .inl ⟨rfl, rfl⟩⟩

theorem missesNothing_of_leaving {deployment : Deployment Config Settings} {farewell : Farewell}
    {verdict : Verdict} (leaving : deployment.listener.stage = .leaving farewell verdict) :
    (deployment.leave verdict farewell).MissesNothing := by
  obtain ⟨subscriptions, left⟩ := deployment.leave_eq verdict farewell
  rw [left]
  unfold MissesNothing
  rcases Listener.leave_cases leaving with ⟨⟨next, stage⟩, _⟩ | ⟨stage, _⟩
  · simp only [stage]
  · simp only [stage]

theorem missesNothing_of_launching {deployment : Deployment Config Settings} {origin : Origin}
    {version : Nat} {config : Config}
    (stage : deployment.listener.stage = .launching origin version config)
    (down : deployment.listener.server = none) (subscribed : deployment.IsSubscribed)
    (tracks : deployment.Tracks version config)
    (last : deployment.listener.LaunchedLast version config) : deployment.MissesNothing := by
  unfold MissesNothing
  simp only [stage]
  exact ⟨down, subscribed, tracks, last⟩

theorem missesNothing_of_serving {deployment : Deployment Config Settings} {server : Server Config}
    (stage : deployment.listener.stage = .waiting) (serving : deployment.listener.server = some server)
    (subscribed : deployment.IsSubscribed)
    (tracks : deployment.Tracks server.version server.config)
    (last : deployment.listener.LaunchedLast server.version server.config) :
    deployment.MissesNothing := by
  unfold MissesNothing
  simp only [stage, serving]
  exact ⟨subscribed, tracks, last⟩

theorem missesNothing_serve (deployment : Deployment Config Settings) {version : Nat} {config : Config}
    (address : SocketAddress) (completion : Completion) (counts : List Count)
    (subscribed : deployment.IsSubscribed) (tracks : deployment.Tracks version config)
    (last : deployment.listener.LaunchedLast version config) :
    MissesNothing
      { deployment with
        listener := { deployment.listener.serve version config address with completion := completion }
        counts := counts } := by
  refine missesNothing_of_serving rfl rfl subscribed (tracks.congr rfl ?_ rfl rfl) ⟨?_, ?_⟩
  · simp only [Listener.serve, Listener.enter_reload]
  · simp only [Listener.serve, Listener.enter_version, last.newest]
  · simp only [Listener.serve, Listener.enter_launches, last.recorded]

theorem missesNothing_resume {deployment : Deployment Config Settings} {origin : Origin}
    {event : Event Config} {count : Count} (down : deployment.listener.server = none)
    (subscribed : deployment.IsSubscribed) (change : event.transition? ≠ none) :
    MissesNothing
      { (deployment.tell [event]).count count with
        listener := deployment.listener.resume origin } := by
  have called := subscribed.tell change (List.mem_singleton_self event)
  cases origin with
  | start => exact ⟨down, subscribed⟩
  | supervisor =>
    -- No server is up, so the call that has just started is what wakes the supervisor.
    have stillDown : (deployment.listener.resume .supervisor).server = none := by
      simp only [Listener.resume, Listener.enter_server, down]
    refine ⟨subscribed, ?_⟩
    simp only [stillDown]
    exact .inr ⟨event, called⟩

theorem Step.missesNothing [BEq Config] {follow : Event Config → Settings → Settings}
    {deployment next : Deployment Config Settings} {move : Move Config}
    (step : Step follow deployment move next) (held : deployment.MissesNothing) : next.MissesNothing := by
  cases step with
  | operate command free => exact (carries_operate deployment command free).missesNothing held
  | enact command free => exact (carries_enact deployment command free).missesNothing held
  | release => exact (carries_release deployment).missesNothing held
  | announce found => exact (carries_announce found).missesNothing held
  | tellListener found => exact (carries_tellListener deployment _).missesNothing held
  | tellSettings found => exact (carries_tellSettings found _).missesNothing held
  | changeFiles files => exact (carries_changeFiles deployment files).missesNothing held
  | askToStop => exact (carries_askToStop deployment).missesNothing held
  | start stage =>
    simp only [MissesNothing, stage] at held
    exact ⟨held, _, List.mem_append_right _ (List.mem_singleton_self _)⟩
  | subscribe stage =>
    simp only [MissesNothing, stage] at held
    obtain ⟨down, id, registered⟩ := held
    refine ⟨down, ?_⟩
    intro event change
    cases event with
    | modified version previous current source => exact ⟨id, registered⟩
    | restored version restored discarded =>
      exact ⟨_, List.mem_append_right _ (List.mem_singleton_self _)⟩
    | canceled reason => exact absurd rfl change
  | read stage =>
    simp only [MissesNothing, stage] at held
    refine missesNothing_of_launching rfl ?_ held.2 (tracks_current _) ⟨rfl, rfl⟩
    simp only [Listener.launchOf, Listener.enter_server, held.1]
  | rollBack stage =>
    simp only [MissesNothing, stage] at held
    exact held
  | giveUp | restoreFailed => trivial
  | restored stage free done late change =>
    simp only [MissesNothing, stage] at held
    exact ⟨held.1, held.2, change⟩
  | resume stage =>
    simp only [MissesNothing, stage] at held
    exact missesNothing_resume held.1 held.2.1 held.2.2
  | relaunch stage =>
    simp only [MissesNothing, stage] at held
    refine missesNothing_of_launching rfl ?_ held.1 (held.2.congr rfl ?_ rfl rfl) ⟨rfl, rfl⟩
    · simp only [Listener.closed, Listener.launchOf, Listener.enter_server]
    · simp only [Listener.closed, Listener.launchOf, Listener.enter_reload]
  | closed => trivial
  | leave stage => exact missesNothing_of_leaving stage
  | started stage =>
    simp only [MissesNothing, stage] at held
    exact missesNothing_serve deployment _ _ _ held.2.1 held.2.2.1 held.2.2.2
  | startFailed stage =>
    simp only [MissesNothing, stage] at held
    exact ⟨held.1, held.2.1⟩
  | restarted stage =>
    simp only [MissesNothing, stage] at held
    exact missesNothing_serve deployment _ _ _ held.2.1 held.2.2.1 held.2.2.2
  | restartFailed stage =>
    simp only [MissesNothing, stage] at held
    exact ⟨held.1, held.2.1⟩
  | ignore stage reload serving same =>
    simp only [MissesNothing, stage, serving] at held
    obtain ⟨subscribed, tracks, last⟩ := held
    have current := last.newest.symm.trans same.symm
    exact missesNothing_of_serving stage serving subscribed
      ⟨tracks.past, tracks.value, .inl current⟩ ⟨last.newest, last.recorded⟩
  | replace stage reload serving different =>
    simp only [MissesNothing, stage] at held
    exact ⟨held.1, tracks_current _⟩
  | launch stage reload down =>
    simp only [MissesNothing, stage] at held
    refine missesNothing_of_launching rfl ?_ held.1 (tracks_current _) ⟨rfl, rfl⟩
    simp only [Listener.launchOf, Listener.enter_server, down]
  | close | quit => trivial
  | serverFailed stage =>
    simp only [MissesNothing, stage] at held
    exact ⟨rfl, held.1⟩

/-- However operations, notifications and steps of the listener fall together: when the listener waits and
nothing is under way any more, then the server that it launched last is up, and it was launched from the
snapshot in effect.  When it waits with no server, then it is already called. -/
theorem waiting_serves_current [BEq Config] (follow : Event Config → Settings → Settings)
    (initial reached : Deployment Config Settings) (moves : List (Move Config)) (name : String)
    (built : initial.listener = .built name) (run : initial.run follow moves = some reached)
    (waiting : reached.listener.stage = .waiting) :
    (reached.listener.server = none → reached.IsCalled) ∧
      (reached.IsQuiet →
        ∃ server, reached.listener.server = some server ∧
          server.version = reached.store.slots.version ∧
          server.config = reached.store.slots.current ∧
          reached.listener.LaunchedLast server.version server.config) := by
  have fresh : initial.MissesNothing := by
    unfold MissesNothing
    rw [built]
    rfl
  have held : reached.MissesNothing := run_induction Step.missesNothing run fresh
  simp only [MissesNothing, waiting] at held
  cases serving : reached.listener.server with
  | none =>
    simp only [serving] at held
    exact ⟨fun _ => held.2, fun quiet => absurd (.inl held.2) quiet.not_willWake⟩
  | some server =>
    simp only [serving] at held
    obtain ⟨_, tracks, last⟩ := held
    refine ⟨fun down => by simp at down, fun quiet => ?_⟩
    have current := tracks.fresh.resolve_right quiet.not_willWake
    exact ⟨server, rfl, current, tracks.value current, last⟩

theorem waiting_serves_current_after_overtaken_launch :
    let initial : Deployment Bytes Unit :=
      ⟨⟨⟨⟨.ok, .ok⟩, ⟨"a"⟩⟩, .initial [49], .empty, []⟩, .fresh [], .built "main", (), [], [], []⟩
    let address : SocketAddress := ⟨.v4 [127, 0, 0, 1], 8000⟩
    let moves : List (Move Bytes) :=
      [.start, .proceed, .proceed, .enact (.reloadSeeing fun _ => .ok [50]),
        .launched (.ok address), .release, .deliver 0, .wake, .proceed, .launched (.ok address)]
    ∃ reached, initial.run (fun _ settings => settings) moves = some reached ∧
      reached.listener.stage = .waiting ∧ reached.IsQuiet ∧
      reached.listener.launches = [(1, [50]), (0, [49])] ∧
      ∃ server, reached.listener.server = some server ∧
        server.version = reached.store.slots.version ∧
        server.config = reached.store.slots.current := by
  intro initial address moves
  have facts : (initial.run (fun _ settings => settings) moves).map (fun reached =>
      (reached.listener.stage, reached.store.withheld, reached.unannounced, reached.calls,
        reached.listener.reload, reached.listener.launches)) =
      some (.waiting, [], [], [], false, [(1, [50]), (0, [49])]) :=
    rfl
  obtain ⟨reached, run, facts⟩ := Option.map_eq_some_iff.mp facts
  simp only [Prod.mk.injEq] at facts
  obtain ⟨waiting, withheld, unannounced, calls, reload, launches⟩ := facts
  have quiet : reached.IsQuiet := ⟨withheld, unannounced, by simp [calls], reload⟩
  obtain ⟨server, serving, version, config, _⟩ :=
    (waiting_serves_current _ initial reached moves "main" rfl run waiting).2 quiet
  exact ⟨reached, run, waiting, quiet, launches, server, serving, version, config⟩

end Deployment

end LiveService
