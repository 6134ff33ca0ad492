import Mathlib.Tactic.Ring
import LiveService.Proofs.Net.Wakeup

/-!
How a deployment goes on by itself: what operations have left to tell is told, calls run, and the listener
takes its steps.  Nobody runs another operation, asks the listener to stop or touches the files, and no
server fails that is up.
-/

namespace LiveService

namespace Deployment

variable {Config Settings : Type}

def IsSettled (deployment : Deployment Config Settings) : Prop :=
  deployment.listener.stage = .ended ∨ deployment.listener.stage = .waiting ∧ deployment.IsQuiet

/-- What is left to tell and to deliver.  An event weighs more than all the calls that it can start. -/
def burden (share : Nat) (deployment : Deployment Config Settings) : Nat :=
  (2 * share + 1) * (deployment.store.withheld.length + deployment.unannounced.length) +
    2 * deployment.calls.length + deployment.listener.reload.toNat

/-- `next` follows by telling or delivering something, which the listener need not have noticed yet. -/
structure Passes (deployment next : Deployment Config Settings) : Prop where
  slots : next.store.slots = deployment.store.slots
  backing : next.store.backing = deployment.store.backing
  subscriptions : next.store.subscriptions = deployment.store.subscriptions
  files : next.files = deployment.files
  stage : next.listener.stage = deployment.listener.stage
  state : next.listener.state = deployment.listener.state
  server : next.listener.server = deployment.listener.server
  version : next.listener.version = deployment.listener.version
  completion : next.listener.completion = deployment.listener.completion
  registered : next.listener.subscriptions = deployment.listener.subscriptions
  wakes : deployment.IsSubscribed → deployment.WillWake → next.WillWake
  lighter : ∀ share, deployment.store.subscriptions.count ≤ share →
    next.burden share < deployment.burden share

theorem length_calls_le (store : ConfigStore Config Follower) (events : List (Event Config)) :
    (store.calls events).length ≤ store.subscriptions.count * events.length := by
  induction events with
  | nil => simp [ConfigStore.calls]
  | cons event rest ih =>
    have first : (store.subscriptions.calls event).length ≤ store.subscriptions.count := by
      cases event <;> simp only [Subscriptions.calls, Subscriptions.count] <;> omega
    simp only [ConfigStore.calls, List.flatMap_cons, List.length_append, List.length_map,
      List.length_cons, Nat.mul_succ] at ih ⊢
    omega

variable {follow : Event Config → Settings → Settings} {deployment next : Deployment Config Settings}

theorem burden_tell (events : List (Event Config)) {share : Nat}
    (bound : deployment.store.subscriptions.count ≤ share) :
    (deployment.tell events).burden share ≤
      deployment.burden share + 2 * (share * events.length) := by
  have started := length_calls_le deployment.store events
  have most := Nat.mul_le_mul_right events.length bound
  simp only [burden, tell, List.length_append]
  omega

theorem burden_le (withheld : next.store.withheld = deployment.store.withheld)
    (unannounced : next.unannounced = deployment.unannounced) (calls : next.calls = deployment.calls)
    (reload : next.listener.reload = true → deployment.listener.reload = true) (share : Nat) :
    next.burden share ≤ deployment.burden share := by
  have marked := Bool.toNat_le_toNat reload
  simp only [burden, withheld, unannounced, calls]
  omega

theorem burden_leave (deployment : Deployment Config Settings) (verdict : Verdict) (farewell : Farewell)
    (share : Nat) : (deployment.leave verdict farewell).burden share ≤ deployment.burden share := by
  obtain ⟨subscriptions, left⟩ := deployment.leave_eq verdict farewell
  rw [left]
  exact burden_le (by rfl) (by rfl) (by rfl) (by simp) share

theorem passes_release (released : deployment.release = some next) : Passes deployment next := by
  unfold release at released
  split at released
  · cases released
  · rename_i occupied
    cases released
    refine ⟨rfl, rfl, rfl, rfl, rfl, rfl, rfl, rfl, rfl, rfl, (carries_release deployment).wakes, ?_⟩
    intro share bound
    let free := { deployment with store := deployment.store.released }
    have told := free.burden_tell deployment.store.withheld bound
    have some : 0 < deployment.store.withheld.length :=
      List.length_pos_iff.mpr fun nothing => occupied (List.isEmpty_iff.mpr nothing)
    have whole : deployment.burden share = free.burden share +
        2 * (share * deployment.store.withheld.length) + deployment.store.withheld.length := by
      simp only [burden, free, ConfigStore.released, List.length_nil]
      ring
    exact Nat.lt_of_le_of_lt told (by omega)

theorem passes_announce {index : Nat} (announced : deployment.announce index = some next) :
    Passes deployment next := by
  obtain ⟨event, found, rfl⟩ := Option.map_eq_some_iff.mp announced
  refine ⟨rfl, rfl, rfl, rfl, rfl, rfl, rfl, rfl, rfl, rfl, (carries_announce found).wakes, ?_⟩
  intro share bound
  let rest := { deployment with unannounced := deployment.unannounced.eraseIdx index }
  have told := rest.burden_tell [event] bound
  have inside : index < deployment.unannounced.length := (List.getElem?_eq_some_iff.mp found).1
  have shorter : deployment.unannounced.length = rest.unannounced.length + 1 := by
    have erased := List.length_eraseIdx_of_lt inside
    simp only [rest, erased]
    omega
  have whole : deployment.burden share = rest.burden share + 2 * share + 1 := by
    simp only [burden, shorter, rest]
    ring
  simp only [List.length_singleton, Nat.mul_one] at told
  exact Nat.lt_of_le_of_lt told (by omega)

theorem passes_deliver {index : Nat} (delivered : deployment.deliver follow index = some next) :
    Passes deployment next := by
  obtain ⟨⟨follower, event⟩, found, rfl⟩ := Option.map_eq_some_iff.mp delivered
  have inside : index < deployment.calls.length := (List.getElem?_eq_some_iff.mp found).1
  have shorter := List.length_eraseIdx_of_lt inside
  cases follower with
  | listener =>
    refine ⟨rfl, rfl, rfl, rfl, rfl, rfl, rfl, rfl, rfl, rfl,
      (carries_tellListener deployment index).wakes, ?_⟩
    intro share _
    simp only [burden, Bool.toNat_true]
    omega
  | settings =>
    refine ⟨rfl, rfl, rfl, rfl, rfl, rfl, rfl, rfl, rfl, rfl, (carries_tellSettings found _).wakes, ?_⟩
    intro share _
    simp only [burden]
    omega

theorem exists_wake (waiting : deployment.listener.stage = .waiting)
    (reload : deployment.listener.reload = true) : ∃ next, deployment.wake = some next := by
  simp only [wake, waiting, reload, if_true]
  split
  · split
    · exact ⟨_, rfl⟩
    · exact ⟨_, rfl⟩
  · exact ⟨_, rfl⟩

theorem exists_launched {origin : Origin} {version : Nat} {config : Config}
    (stage : deployment.listener.stage = .launching origin version config)
    (result : Except ListenerError SocketAddress) : ∃ next, deployment.launched result = some next := by
  simp only [launched, stage]
  cases result with
  | ok address => exact ⟨_, rfl⟩
  | error error => exact ⟨_, rfl⟩

theorem wake_cases (woken : deployment.wake = some next) :
    deployment.listener.stage = .waiting ∧ deployment.listener.reload = true ∧
      ((∃ server, deployment.listener.server = some server ∧
          deployment.listener.version = deployment.store.slots.version ∧
          next = { deployment with listener := { deployment.listener with reload := false } }) ∨
        (∃ server, deployment.listener.server = some server ∧
          deployment.listener.version ≠ deployment.store.slots.version ∧
          next = { deployment with
            listener := ({ deployment.listener with reload := false }).close
              (some (deployment.store.slots.version, deployment.store.slots.current)) }) ∨
        deployment.listener.server = none ∧
          next = { deployment with
            listener := ({ deployment.listener with reload := false }).launchOf .supervisor
              deployment.store.slots.version deployment.store.slots.current }) := by
  unfold wake at woken
  dsimp only at woken
  split at woken
  · rename_i stage
    split at woken
    · rename_i reload
      refine ⟨stage, reload, ?_⟩
      split at woken
      · rename_i server serving
        split at woken
        · rename_i same
          exact .inl ⟨server, serving, (beq_iff_eq.mp same).symm, (Option.some.inj woken).symm⟩
        · rename_i different
          refine .inr (.inl ⟨server, serving, ?_, (Option.some.inj woken).symm⟩)
          exact fun same => different (beq_iff_eq.mpr same.symm)
      · rename_i down
        exact .inr (.inr ⟨down, (Option.some.inj woken).symm⟩)
    · cases woken
  · cases woken

theorem eq_of_launched_error {version : Nat} {config : Config} {error : ListenerError}
    (launched : deployment.launched (.error error) = some next)
    (stage : deployment.listener.stage = .launching .supervisor version config) :
    next = { deployment.count (.restart deployment.listener.name false) with
      listener := { deployment.listener with stage := .failed .supervisor error } } := by
  simp only [Deployment.launched, stage, Option.some.injEq] at launched
  exact launched.symm

theorem eq_of_launched_ok {version : Nat} {config : Config} {address : SocketAddress}
    (launched : deployment.launched (.ok address) = some next)
    (stage : deployment.listener.stage = .launching .supervisor version config) :
    next = { deployment.count (.restart deployment.listener.name true) with
      listener := deployment.listener.serve version config address } := by
  simp only [Deployment.launched, stage, Option.some.injEq] at launched
  exact launched.symm

variable [BEq Config] {results : Nat → Except ListenerError SocketAddress}

theorem eq_of_proceed_closing {version : Nat} {config : Config}
    (proceeded : deployment.proceed = some next)
    (stage : deployment.listener.stage = .closing (some (version, config))) :
    next = { deployment with listener := deployment.listener.closed (some (version, config)) } := by
  simp only [proceed, stage, Option.some.injEq] at proceeded
  exact proceeded.symm

theorem eq_of_proceed_failed {origin : Origin} {error : ListenerError}
    (proceeded : deployment.proceed = some next)
    (stage : deployment.listener.stage = .failed origin error) :
    next = if deployment.store.slots.canRestore then
        { deployment with
          listener := { deployment.listener with stage := .rollingBack origin error } }
      else
        { deployment with
          listener :=
            { deployment.listener with stage := .leaving .unsubscribing (origin.verdict error) } } := by
  simp only [proceed, stage, Option.ite_none_right_eq_some] at proceeded
  split at proceeded
  · rename_i way
    rw [if_pos way]
    exact (Option.some.inj proceeded.2).symm
  · rename_i noWay
    rw [if_neg noWay]
    exact (Option.some.inj proceeded.2).symm

theorem eq_of_proceed_rollingBack {origin : Origin} {error : ListenerError} {former : Config}
    (proceeded : deployment.proceed = some next)
    (stage : deployment.listener.stage = .rollingBack origin error)
    (there : deployment.store.slots.previous = some former) :
    let saved := deployment.store.backing.persist deployment.store.slots deployment.files former
    (∃ reason, saved.2 = .error reason ∧
        next = { deployment with
          files := saved.1
          listener :=
            { deployment.listener with stage := .leaving .unsubscribing (origin.verdict error) } }) ∨
      ∃ after, saved.2 = .ok after ∧
        let event : Event Config := .restored (after.version + 1) former after.current
        next = { deployment with
          store := { deployment.store with slots := after.rollBack former }
          files := saved.1
          listener := { deployment.listener with stage := .announcing origin event }
          counts := deployment.counts ++ [.restore] } := by
  intro saved
  simp only [proceed, stage, Option.ite_none_right_eq_some] at proceeded
  obtain ⟨_, proceeded⟩ := proceeded
  have whole : deployment.store.backing.persist deployment.store.slots deployment.files former =
      (saved.1, saved.2) :=
    rfl
  cases result : saved.2 with
  | error reason =>
    have refused : deployment.store.backing.restore deployment.store.slots deployment.files =
        .quiet (.error reason) deployment.store.slots saved.1 := by
      simp only [Backing.restore, there, whole, result]
    rw [refused] at proceeded
    refine .inl ⟨reason, rfl, ?_⟩
    rw [← Option.some.inj proceeded]
    simp [settle, tell, Outcome.quiet, ConfigStore.calls]
  | ok after =>
    have restored : deployment.store.backing.restore deployment.store.slots deployment.files =
        ⟨.ok .done, after.rollBack former, saved.1, [],
          [.restored (after.version + 1) former after.current], [.restore]⟩ := by
      simp only [Backing.restore, there, whole, result]
      rfl
    rw [restored] at proceeded
    refine .inr ⟨after, rfl, ?_⟩
    rw [← Option.some.inj proceeded]
    simp [settle, tell, ConfigStore.calls]

theorem eq_of_proceed_announcing {origin : Origin} {event : Event Config}
    (proceeded : deployment.proceed = some next)
    (stage : deployment.listener.stage = .announcing origin event) :
    next = { (deployment.tell [event]).count (.rollback deployment.listener.name) with
      listener := deployment.listener.resume origin } := by
  simp only [proceed, stage, Option.some.injEq] at proceeded
  exact proceeded.symm

theorem proceed_of_leaving {farewell : Farewell} {verdict : Verdict}
    (stage : deployment.listener.stage = .leaving farewell verdict) :
    deployment.proceed = some (deployment.leave verdict farewell) := by
  simp only [proceed, stage]

/-- What happens by itself.  The launch of a version ends as `results` says. -/
inductive GoesOn (follow : Event Config → Settings → Settings)
    (results : Nat → Except ListenerError SocketAddress)
    (deployment next : Deployment Config Settings) : Prop where
  | release (released : deployment.release = some next)
  | announce (index : Nat) (announced : deployment.announce index = some next)
  | deliver (index : Nat) (delivered : deployment.deliver follow index = some next)
  | wake (woken : deployment.wake = some next)
  | proceed (proceeded : deployment.proceed = some next)
  | launched {origin : Origin} {version : Nat} {config : Config}
      (stage : deployment.listener.stage = .launching origin version config)
      (launched : deployment.launched (results version) = some next)

namespace GoesOn

variable (step : GoesOn follow results deployment next)

include step

theorem of_waiting (stage : deployment.listener.stage = .waiting) :
    Passes deployment next ∨ deployment.wake = some next := by
  cases step with
  | release released => exact .inl (passes_release released)
  | announce index announced => exact .inl (passes_announce announced)
  | deliver index delivered => exact .inl (passes_deliver delivered)
  | wake woken => exact .inr woken
  | proceed proceeded => simp [Deployment.proceed, stage] at proceeded
  | launched other => simp [stage] at other

theorem of_launching {origin : Origin} {version : Nat} {config : Config}
    (stage : deployment.listener.stage = .launching origin version config) :
    Passes deployment next ∨ deployment.launched (results version) = some next := by
  cases step with
  | release released => exact .inl (passes_release released)
  | announce index announced => exact .inl (passes_announce announced)
  | deliver index delivered => exact .inl (passes_deliver delivered)
  | wake woken => simp [Deployment.wake, stage] at woken
  | proceed proceeded => simp [Deployment.proceed, stage] at proceeded
  | launched other launched =>
    rw [stage] at other
    cases other
    exact .inr launched

theorem of_other (notWaiting : deployment.listener.stage ≠ .waiting)
    (notLaunching : ∀ origin version config,
      deployment.listener.stage ≠ .launching origin version config) :
    Passes deployment next ∨ deployment.proceed = some next := by
  cases step with
  | release released => exact .inl (passes_release released)
  | announce index announced => exact .inl (passes_announce announced)
  | deliver index delivered => exact .inl (passes_deliver delivered)
  | wake woken =>
    unfold Deployment.wake at woken
    split at woken
    · rename_i waiting
      exact absurd waiting notWaiting
    · cases woken
  | proceed proceeded => exact .inr proceeded
  | launched stage => exact absurd stage (notLaunching _ _ _)

end GoesOn

theorem exists_proceed (free : deployment.store.isFree = true)
    (started : deployment.listener.stage ≠ .fresh) (running : deployment.listener.stage ≠ .ended)
    (notWaiting : deployment.listener.stage ≠ .waiting)
    (notLaunching : ∀ origin version config,
      deployment.listener.stage ≠ .launching origin version config) :
    ∃ next, deployment.proceed = some next := by
  cases stage : deployment.listener.stage with
  | fresh => exact absurd stage started
  | launching origin version config => exact absurd stage (notLaunching origin version config)
  | waiting => exact absurd stage notWaiting
  | ended => exact absurd stage running
  | subscribing modified =>
    simp only [proceed, stage]
    exact ⟨_, rfl⟩
  | reading =>
    simp only [proceed, stage]
    exact ⟨_, rfl⟩
  | failed origin error =>
    simp only [proceed, stage, free, if_true]
    split
    · exact ⟨_, rfl⟩
    · exact ⟨_, rfl⟩
  | rollingBack origin error =>
    simp only [proceed, stage, free, if_true]
    exact ⟨_, rfl⟩
  | announcing origin event =>
    simp only [proceed, stage]
    exact ⟨_, rfl⟩
  | closing target =>
    simp only [proceed, stage]
    exact ⟨_, rfl⟩
  | leaving farewell verdict =>
    simp only [proceed, stage]
    exact ⟨_, rfl⟩

theorem isQuiet_of_stuck (free : deployment.store.isFree = true)
    (waiting : deployment.listener.stage = .waiting)
    (stuck : ∀ next, ¬GoesOn follow results deployment next) : deployment.IsQuiet := by
  refine ⟨withheld_of_isFree free, ?_, ?_, ?_⟩
  · cases events : deployment.unannounced with
    | nil => rfl
    | cons event rest =>
      exact absurd (.announce 0 (by simp only [Deployment.announce, events]; rfl)) (stuck _)
  · intro event called
    obtain ⟨index, found⟩ := List.mem_iff_getElem?.mp called
    exact absurd (.deliver index (by simp only [Deployment.deliver, found]; rfl)) (stuck _)
  · cases reload : deployment.listener.reload with
    | false => rfl
    | true =>
      obtain ⟨next, woken⟩ := exists_wake waiting reload
      exact absurd (.wake woken) (stuck next)

theorem goesOn_of_not_settled (follow : Event Config → Settings → Settings)
    (results : Nat → Except ListenerError SocketAddress)
    (started : deployment.listener.stage ≠ .fresh) (unsettled : ¬deployment.IsSettled) :
    ∃ next, GoesOn follow results deployment next := by
  by_contra nothing
  have stuck := not_exists.mp nothing
  cases free : deployment.store.isFree with
  | false =>
    exact stuck _ (.release (by simp only [Deployment.release, free]; rfl))
  | true =>
    by_cases waiting : deployment.listener.stage = .waiting
    · exact unsettled (.inr ⟨waiting, isQuiet_of_stuck free waiting stuck⟩)
    · by_cases launching : ∃ origin version config,
        deployment.listener.stage = .launching origin version config
      · obtain ⟨origin, version, config, stage⟩ := launching
        obtain ⟨next, launched⟩ := exists_launched stage (results version)
        exact stuck next (.launched stage launched)
      · obtain ⟨next, proceeded⟩ := exists_proceed free started
          (fun ended => unsettled (.inl ended)) waiting
          fun origin version config stage => launching ⟨origin, version, config, stage⟩
        exact stuck next (.proceed proceeded)

end Deployment

end LiveService
