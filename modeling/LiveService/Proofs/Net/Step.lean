import LiveService.Net.Deployment
import LiveService.Proofs.Store.Effect

/-!
What can happen in a deployment, one case for each thing that a move can be.  Facts about all moves are
proved by these cases and carried over to runs, which are moves one after the other.
-/

namespace LiveService

namespace Backing

variable {Config : Type}

theorem restore_cases (backing : Backing Config) (slots : Slots Config) (files : FileSystem) :
    (∃ error, (backing.restore slots files).result = .error error) ∨
      ∃ event, (backing.restore slots files).result = .ok .done ∧
        (backing.restore slots files).lateEvents = [event] ∧ event.transition? ≠ none := by
  unfold restore
  split
  · exact .inl ⟨_, rfl⟩
  · split
    · exact .inl ⟨_, rfl⟩
    · exact .inr ⟨_, rfl, rfl, by simp [Event.transition?]⟩

theorem restore_of_error {backing : Backing Config} {slots : Slots Config} {files : FileSystem}
    {error : ConfigError} (failed : (backing.restore slots files).result = .error error) :
    backing.restore slots files = .quiet (.error error) slots (backing.restore slots files).files := by
  unfold restore at failed ⊢
  split at failed
  · cases failed
    rfl
  · split at failed
    · rename_i wrote
      cases failed
      rfl
    · cases failed

end Backing

namespace Listener

variable {Config : Type} (listener : Listener Config) (state : ListenerState)

@[simp]
theorem enter_server : (listener.enter state).server = listener.server := by
  unfold enter
  split <;> rfl

@[simp]
theorem enter_address : (listener.enter state).address = listener.address := by
  unfold enter
  split <;> rfl

@[simp]
theorem enter_version : (listener.enter state).version = listener.version := by
  unfold enter
  split <;> rfl

@[simp]
theorem enter_reload : (listener.enter state).reload = listener.reload := by
  unfold enter
  split <;> rfl

@[simp]
theorem enter_stopAsked : (listener.enter state).stopAsked = listener.stopAsked := by
  unfold enter
  split <;> rfl

@[simp]
theorem enter_subscriptions : (listener.enter state).subscriptions = listener.subscriptions := by
  unfold enter
  split <;> rfl

@[simp]
theorem enter_launches : (listener.enter state).launches = listener.launches := by
  unfold enter
  split <;> rfl

@[simp]
theorem enter_completion : (listener.enter state).completion = listener.completion := by
  unfold enter
  split <;> rfl

@[simp]
theorem enter_state : (listener.enter state).state = state := by
  unfold enter
  split
  · assumption
  · rfl

section

variable (verdict : Verdict) (farewell : Farewell)

@[simp]
theorem leave_server : (listener.leave verdict farewell).server = listener.server := by
  cases farewell with
  | unsubscribing =>
    simp only [leave]
    split <;> rfl
  | terminating => exact listener.enter_server _
  | withdrawing | reporting => rfl

@[simp]
theorem leave_version : (listener.leave verdict farewell).version = listener.version := by
  cases farewell with
  | unsubscribing =>
    simp only [leave]
    split <;> rfl
  | terminating => exact listener.enter_version _
  | withdrawing | reporting => rfl

@[simp]
theorem leave_reload : (listener.leave verdict farewell).reload = listener.reload := by
  cases farewell with
  | unsubscribing =>
    simp only [leave]
    split <;> rfl
  | terminating => exact listener.enter_reload _
  | withdrawing | reporting => rfl

@[simp]
theorem leave_stopAsked : (listener.leave verdict farewell).stopAsked = listener.stopAsked := by
  cases farewell with
  | unsubscribing =>
    simp only [leave]
    split <;> rfl
  | terminating => exact listener.enter_stopAsked _
  | withdrawing | reporting => rfl

@[simp]
theorem leave_launches : (listener.leave verdict farewell).launches = listener.launches := by
  cases farewell with
  | unsubscribing =>
    simp only [leave]
    split <;> rfl
  | terminating => exact listener.enter_launches _
  | withdrawing | reporting => rfl

end

theorem leave_cases {listener : Listener Config} {verdict : Verdict} {farewell : Farewell}
    (stage : listener.stage = .leaving farewell verdict) :
    (∃ next, (listener.leave verdict farewell).stage = .leaving next verdict) ∧
        (listener.leave verdict farewell).completion = listener.completion ∨
      (listener.leave verdict farewell).stage = .ended ∧
        (listener.leave verdict farewell).completion = verdict.completion := by
  cases farewell with
  | unsubscribing =>
    simp only [leave]
    split
    · exact .inl ⟨⟨_, stage⟩, rfl⟩
    · exact .inl ⟨⟨_, rfl⟩, rfl⟩
  | withdrawing => exact .inl ⟨⟨_, rfl⟩, rfl⟩
  | terminating => exact .inl ⟨⟨_, rfl⟩, listener.enter_completion _⟩
  | reporting => exact .inr ⟨rfl, rfl⟩

end Listener

namespace Deployment

variable {Config Settings : Type}

theorem withheld_of_isFree {deployment : Deployment Config Settings}
    (free : deployment.store.isFree = true) : deployment.store.withheld = [] :=
  List.isEmpty_iff.mp free

theorem leave_eq (deployment : Deployment Config Settings) (verdict : Verdict) (farewell : Farewell) :
    ∃ subscriptions, deployment.leave verdict farewell =
      { deployment with
        store := { deployment.store with subscriptions := subscriptions }
        listener := deployment.listener.leave verdict farewell } := by
  unfold leave
  dsimp only
  split
  · exact ⟨_, rfl⟩
  · exact ⟨deployment.store.subscriptions, rfl⟩

theorem settle_of_error {deployment : Deployment Config Settings} {error : ConfigError}
    (failed : (deployment.store.backing.restore deployment.store.slots deployment.files).result =
      .error error) :
    deployment.settle (deployment.store.backing.restore deployment.store.slots deployment.files) =
      { deployment with
        files := (deployment.store.backing.restore deployment.store.slots deployment.files).files } := by
  rw [Backing.restore_of_error failed]
  simp [settle, tell, Outcome.quiet, ConfigStore.calls]

variable [BEq Config]

/-- The ways in which a deployment goes on. -/
inductive Step (follow : Event Config → Settings → Settings)
    (deployment : Deployment Config Settings) : Move Config → Deployment Config Settings → Prop where
  | operate (command : Command Config) (free : deployment.store.withheld = []) :
      Step follow deployment (.operate command) (deployment.operate command).1
  | enact (command : Command Config) (free : deployment.store.withheld = []) :
      Step follow deployment (.enact command) (deployment.enact command)
  | release :
      Step follow deployment .release
        (({ deployment with store := deployment.store.released }).tell deployment.store.withheld)
  | announce {index : Nat} {event : Event Config}
      (found : deployment.unannounced[index]? = some event) :
      Step follow deployment (.announce index)
        (({ deployment with unannounced := deployment.unannounced.eraseIdx index }).tell [event])
  | tellListener {index : Nat} {event : Event Config}
      (found : deployment.calls[index]? = some (.listener, event)) :
      Step follow deployment (.deliver index)
        { deployment with
          calls := deployment.calls.eraseIdx index
          listener := { deployment.listener with reload := true } }
  | tellSettings {index : Nat} {event : Event Config}
      (found : deployment.calls[index]? = some (.settings, event)) :
      Step follow deployment (.deliver index)
        { deployment with
          calls := deployment.calls.eraseIdx index
          settings := follow event deployment.settings }
  | changeFiles (files : FileSystem) :
      Step follow deployment (.changeFiles files) { deployment with files := files }
  | start (stage : deployment.listener.stage = .fresh) :
      Step follow deployment .start
        { deployment with
          store :=
            { deployment.store with
              subscriptions := (deployment.store.subscriptions.onModified .listener).2 }
          listener :=
            { deployment.listener with
              stage := .subscribing (deployment.store.subscriptions.onModified .listener).1 } }
  | askToStop : Step follow deployment .askToStop deployment.askToStop
  | subscribe {modified : Nat} (stage : deployment.listener.stage = .subscribing modified) :
      Step follow deployment .proceed
        { deployment with
          store :=
            { deployment.store with
              subscriptions := (deployment.store.subscriptions.onRestored .listener).2 }
          listener :=
            { deployment.listener with
              stage := .reading
              subscriptions :=
                [modified, (deployment.store.subscriptions.onRestored .listener).1] } }
  | read (stage : deployment.listener.stage = .reading) :
      Step follow deployment .proceed
        { deployment with
          listener :=
            deployment.listener.launchOf .start deployment.store.slots.version
              deployment.store.slots.current }
  | rollBack {origin : Origin} {error : ListenerError}
      (stage : deployment.listener.stage = .failed origin error)
      (free : deployment.store.withheld = []) (way : deployment.store.slots.canRestore = true) :
      Step follow deployment .proceed
        { deployment with
          listener := { deployment.listener with stage := .rollingBack origin error } }
  | giveUp {origin : Origin} {error : ListenerError}
      (stage : deployment.listener.stage = .failed origin error)
      (free : deployment.store.withheld = []) (noWay : deployment.store.slots.canRestore = false) :
      Step follow deployment .proceed
        { deployment with
          listener :=
            { deployment.listener with stage := .leaving .unsubscribing (origin.verdict error) } }
  | restoreFailed {origin : Origin} {error : ListenerError} {restoreError : ConfigError}
      (stage : deployment.listener.stage = .rollingBack origin error)
      (free : deployment.store.withheld = [])
      (failed : (deployment.store.backing.restore deployment.store.slots
        deployment.files).result = .error restoreError) :
      Step follow deployment .proceed
        { deployment with
          files := (deployment.store.backing.restore deployment.store.slots deployment.files).files
          listener :=
            { deployment.listener with stage := .leaving .unsubscribing (origin.verdict error) } }
  | restored {origin : Origin} {error : ListenerError} {event : Event Config}
      (stage : deployment.listener.stage = .rollingBack origin error)
      (free : deployment.store.withheld = [])
      (done : (deployment.store.backing.restore deployment.store.slots
        deployment.files).result = .ok .done)
      (late : (deployment.store.backing.restore deployment.store.slots
        deployment.files).lateEvents = [event])
      (change : event.transition? ≠ none) :
      Step follow deployment .proceed
        { deployment.settle
            (deployment.store.backing.restore deployment.store.slots deployment.files) with
          listener := { deployment.listener with stage := .announcing origin event } }
  | resume {origin : Origin} {event : Event Config}
      (stage : deployment.listener.stage = .announcing origin event) :
      Step follow deployment .proceed
        { (deployment.tell [event]).count (.rollback deployment.listener.name) with
          listener := deployment.listener.resume origin }
  | relaunch {version : Nat} {config : Config}
      (stage : deployment.listener.stage = .closing (some (version, config))) :
      Step follow deployment .proceed
        { deployment with listener := deployment.listener.closed (some (version, config)) }
  | closed (stage : deployment.listener.stage = .closing none) :
      Step follow deployment .proceed
        { deployment with listener := deployment.listener.closed none }
  | leave {farewell : Farewell} {verdict : Verdict}
      (stage : deployment.listener.stage = .leaving farewell verdict) :
      Step follow deployment .proceed (deployment.leave verdict farewell)
  | started {version : Nat} {config : Config} {address : SocketAddress}
      (stage : deployment.listener.stage = .launching .start version config) :
      Step follow deployment (.launched (.ok address))
        { deployment with
          listener :=
            { deployment.listener.serve version config address with completion := .pending } }
  | startFailed {version : Nat} {config : Config} {error : ListenerError}
      (stage : deployment.listener.stage = .launching .start version config) :
      Step follow deployment (.launched (.error error))
        { deployment with listener := { deployment.listener with stage := .failed .start error } }
  | restarted {version : Nat} {config : Config} {address : SocketAddress}
      (stage : deployment.listener.stage = .launching .supervisor version config) :
      Step follow deployment (.launched (.ok address))
        { deployment.count (.restart deployment.listener.name true) with
          listener := deployment.listener.serve version config address }
  | restartFailed {version : Nat} {config : Config} {error : ListenerError}
      (stage : deployment.listener.stage = .launching .supervisor version config) :
      Step follow deployment (.launched (.error error))
        { deployment.count (.restart deployment.listener.name false) with
          listener := { deployment.listener with stage := .failed .supervisor error } }
  | ignore {server : Server Config} (stage : deployment.listener.stage = .waiting)
      (reload : deployment.listener.reload = true) (serving : deployment.listener.server = some server)
      (same : deployment.store.slots.version = deployment.listener.version) :
      Step follow deployment .wake
        { deployment with listener := { deployment.listener with reload := false } }
  | replace {server : Server Config} (stage : deployment.listener.stage = .waiting)
      (reload : deployment.listener.reload = true) (serving : deployment.listener.server = some server)
      (different : deployment.store.slots.version ≠ deployment.listener.version) :
      Step follow deployment .wake
        { deployment with
          listener :=
            ({ deployment.listener with reload := false }).close
              (some (deployment.store.slots.version, deployment.store.slots.current)) }
  | launch (stage : deployment.listener.stage = .waiting)
      (reload : deployment.listener.reload = true) (down : deployment.listener.server = none) :
      Step follow deployment .wake
        { deployment with
          listener :=
            ({ deployment.listener with reload := false }).launchOf .supervisor
              deployment.store.slots.version deployment.store.slots.current }
  | close {server : Server Config} (stage : deployment.listener.stage = .waiting)
      (asked : deployment.listener.stopAsked = true)
      (serving : deployment.listener.server = some server) :
      Step follow deployment .halt { deployment with listener := deployment.listener.close none }
  | quit (stage : deployment.listener.stage = .waiting)
      (asked : deployment.listener.stopAsked = true) (down : deployment.listener.server = none) :
      Step follow deployment .halt
        { deployment with
          listener :=
            { deployment.listener with stage := .leaving .unsubscribing (.resolved (.ok ())) } }
  | serverFailed {server : Server Config} {error : ListenerError}
      (stage : deployment.listener.stage = .waiting)
      (serving : deployment.listener.server = some server) :
      Step follow deployment (.serverFailed error)
        { deployment with
          listener :=
            { deployment.listener with
              server := none
              address := none
              stage := .failed .supervisor error } }

variable {follow : Event Config → Settings → Settings} {deployment next : Deployment Config Settings}

theorem step_of_release (released : deployment.release = some next) :
    Step follow deployment .release next := by
  unfold release at released
  split at released
  · simp at released
  · rw [← Option.some.inj released]
    exact .release

theorem step_of_announce {index : Nat} (announced : deployment.announce index = some next) :
    Step follow deployment (.announce index) next := by
  obtain ⟨event, found, rfl⟩ := Option.map_eq_some_iff.mp announced
  exact .announce found

theorem step_of_deliver {index : Nat} (delivered : deployment.deliver follow index = some next) :
    Step follow deployment (.deliver index) next := by
  obtain ⟨⟨follower, event⟩, found, rfl⟩ := Option.map_eq_some_iff.mp delivered
  cases follower with
  | listener => exact .tellListener found
  | settings => exact .tellSettings found

theorem step_of_start (started : deployment.start.toOption = some next) :
    Step follow deployment .start next := by
  unfold start at started
  split at started
  · rename_i stage
    simp only [Except.toOption, Option.some.injEq] at started
    subst started
    exact .start stage
  · simp [Except.toOption] at started

theorem step_of_proceed (proceeded : deployment.proceed = some next) :
    Step follow deployment .proceed next := by
  unfold proceed at proceeded
  dsimp only at proceeded
  split at proceeded
  case h_1 modified stage =>
    simp only [Option.some.injEq] at proceeded
    subst proceeded
    exact .subscribe stage
  case h_2 stage =>
    simp only [Option.some.injEq] at proceeded
    subst proceeded
    exact .read stage
  case h_3 origin error stage =>
    split at proceeded
    · rename_i free
      split at proceeded
      · rename_i way
        simp only [Option.some.injEq] at proceeded
        subst proceeded
        exact .rollBack stage (withheld_of_isFree free) way
      · rename_i noWay
        simp only [Option.some.injEq] at proceeded
        subst proceeded
        exact .giveUp stage (withheld_of_isFree free) (by simpa using noWay)
    · simp at proceeded
  case h_4 origin error stage =>
    split at proceeded
    · rename_i free
      have noneWithheld := withheld_of_isFree free
      rcases deployment.store.backing.restore_cases deployment.store.slots deployment.files with
        ⟨restoreError, failed⟩ | ⟨event, done, late, change⟩
      · simp only [failed, settle_of_error failed, Option.some.injEq] at proceeded
        subst proceeded
        exact .restoreFailed stage noneWithheld failed
      · simp only [done, late, Option.some.injEq] at proceeded
        subst proceeded
        exact .restored stage noneWithheld done late change
    · simp at proceeded
  case h_5 origin event stage =>
    simp only [Option.some.injEq] at proceeded
    subst proceeded
    exact .resume stage
  case h_6 target stage =>
    simp only [Option.some.injEq] at proceeded
    subst proceeded
    cases target with
    | none => exact .closed stage
    | some snapshot => exact .relaunch stage
  case h_7 farewell verdict stage =>
    simp only [Option.some.injEq] at proceeded
    subst proceeded
    exact .leave stage
  case h_8 => simp at proceeded

theorem step_of_launched {result : Except ListenerError SocketAddress}
    (launched : deployment.launched result = some next) :
    Step follow deployment (.launched result) next := by
  unfold Deployment.launched at launched
  dsimp only at launched
  split at launched
  · rename_i origin version config stage
    cases origin <;> cases result <;> simp only [Option.some.injEq] at launched <;> subst launched
    · exact .startFailed stage
    · exact .started stage
    · exact .restartFailed stage
    · exact .restarted stage
  · simp at launched

theorem step_of_wake (woken : deployment.wake = some next) : Step follow deployment .wake next := by
  unfold wake at woken
  dsimp only at woken
  split at woken
  · rename_i stage
    split at woken
    · rename_i reload
      split at woken
      · rename_i server serving
        split at woken
        · rename_i same
          simp only [Option.some.injEq] at woken
          subst woken
          exact .ignore stage reload serving (by simpa using same)
        · rename_i different
          simp only [Option.some.injEq] at woken
          subst woken
          exact .replace stage reload serving (by simpa using different)
      · rename_i down
        simp only [Option.some.injEq] at woken
        subst woken
        exact .launch stage reload down
    · simp at woken
  · simp at woken

theorem step_of_halt (halted : deployment.halt = some next) : Step follow deployment .halt next := by
  unfold halt at halted
  split at halted
  · rename_i stage
    split at halted
    · rename_i asked
      split at halted
      · rename_i serving
        simp only [Option.some.injEq] at halted
        subst halted
        exact .close stage asked serving
      · rename_i down
        simp only [Option.some.injEq] at halted
        subst halted
        exact .quit stage asked down
    · simp at halted
  · simp at halted

theorem step_of_serverFailed {error : ListenerError}
    (failed : deployment.serverFailed error = some next) :
    Step follow deployment (.serverFailed error) next := by
  unfold serverFailed at failed
  split at failed
  · rename_i stage serving
    simp only [Option.some.injEq] at failed
    subst failed
    exact .serverFailed stage serving
  · simp at failed

theorem step_of_move {move : Move Config} (moved : deployment.move follow move = some next) :
    Step follow deployment move next := by
  cases move with
  | operate command =>
    obtain ⟨free, operated⟩ := Option.ite_none_right_eq_some.mp moved
    rw [← Option.some.inj operated]
    exact .operate command (withheld_of_isFree free)
  | enact command =>
    obtain ⟨free, enacted⟩ := Option.ite_none_right_eq_some.mp moved
    rw [← Option.some.inj enacted]
    exact .enact command (withheld_of_isFree free)
  | release => exact step_of_release moved
  | announce index => exact step_of_announce moved
  | deliver index => exact step_of_deliver moved
  | changeFiles files =>
    rw [← Option.some.inj moved]
    exact .changeFiles files
  | start => exact step_of_start moved
  | askToStop =>
    rw [← Option.some.inj moved]
    exact .askToStop
  | proceed => exact step_of_proceed moved
  | launched result => exact step_of_launched moved
  | wake => exact step_of_wake moved
  | halt => exact step_of_halt moved
  | serverFailed error => exact step_of_serverFailed moved

def run (follow : Event Config → Settings → Settings) (deployment : Deployment Config Settings)
    (moves : List (Move Config)) : Option (Deployment Config Settings) :=
  moves.foldlM (Deployment.move follow) deployment

theorem run_cons {move : Move Config} (moved : deployment.move follow move = some next)
    (rest : List (Move Config)) : deployment.run follow (move :: rest) = next.run follow rest := by
  simp only [run, List.foldlM_cons, moved, Option.bind_eq_bind, Option.bind_some]

/-- What every step keeps holds after every run. -/
theorem run_induction {holds : Deployment Config Settings → Prop}
    (step : ∀ {deployment move next}, Step follow deployment move next → holds deployment → holds next)
    {moves : List (Move Config)} :
    ∀ {deployment reached : Deployment Config Settings}, deployment.run follow moves = some reached →
      holds deployment → holds reached := by
  induction moves with
  | nil =>
    intro deployment reached run held
    rw [← Option.some.inj run]
    exact held
  | cons move rest ih =>
    intro deployment reached run held
    obtain ⟨next, moved, run⟩ := Option.bind_eq_some_iff.mp run
    exact ih run (step (step_of_move moved) held)

end Deployment

end LiveService
