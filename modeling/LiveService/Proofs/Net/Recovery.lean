import Mathlib.Logic.Relation
import LiveService.Proofs.Files.Content
import LiveService.Proofs.Net.Leaving

/-!
What becomes of a committed value that cannot be served.  The listener gives up the server that it has,
fails to launch another, brings the value before back and serves that again.  Each phase of this follows
from the one before, however notifications are told and delivered in between.
-/

namespace LiveService

variable {Config Settings : Type}

structure Listener.IsServing (listener : Listener Config) (server : Server Config) : Prop where
  stage : listener.stage = .waiting
  state : listener.state = .running
  server : listener.server = some server
  pending : listener.completion = .pending

structure Listener.HasEnded (listener : Listener Config) (error : ListenerError) : Prop where
  stage : listener.stage = .ended
  state : listener.state = .terminated
  server : listener.server = none
  completion : listener.completion = .resolved (.error error)

theorem Listener.IsLeaving.hasEnded {listener : Listener Config} {error : ListenerError} {left : Nat}
    (leaving : listener.IsLeaving (.resolved (.error error)) left) (down : listener.server = none)
    (ended : listener.stage = .ended) : listener.HasEnded error := by
  cases leaving with
  | unsubscribing stage | withdrawing stage | terminating stage | reporting stage =>
    cases ended.symm.trans stage
  | ended stage terminated told => exact ⟨stage, terminated, down, told⟩

/-- A store right after a commit, with the value that the commit displaced.  The launch of a version ends
as `results` says. -/
structure Mishap (Config : Type) where
  backing : Backing Config
  subscriptions : Subscriptions Config Follower
  slots : Slots Config
  files : FileSystem
  good : Config
  results : Nat → Except ListenerError SocketAddress

theorem Effect.of_commit {slots : Slots Config} {outcome : Outcome Config} {source : Source}
    (effect : Effect slots outcome) (counts : outcome.counts = [.commit source]) :
    outcome.slots.version = slots.version + 1 ∧ outcome.slots.previous = some slots.current := by
  cases effect with
  | kept _ _ _ _ _ others => simp [counts] at others
  | committed _ version previous => exact ⟨version, previous⟩
  | restored _ _ _ _ _ others => simp [counts] at others

theorem Backing.holds_of_persist {backing : Backing Config} {slots after : Slots Config}
    {files : FileSystem} {value : Config} (wrote : (backing.persist slots files value).2 = .ok after) :
    ∃ content, backing.format.encode value = .ok content ∧
      (backing.persist slots files value).1.Holds backing.path content := by
  unfold persist at wrote ⊢
  cases encoded : backing.format.encode value with
  | error error => simp [encoded] at wrote
  | ok content =>
    simp only [encoded, writeContent] at wrote ⊢
    split at wrote
    · cases wrote
    · rename_i written
      exact ⟨content, rfl, ConfigFile.write_holds written⟩

namespace Mishap

def saved (mishap : Mishap Config) : FileSystem × Except ConfigError (Slots Config) :=
  mishap.backing.persist mishap.slots mishap.files mishap.good

def restoredSlots (mishap : Mishap Config) : Slots Config :=
  { mishap.slots with seen := some mishap.good }.rollBack mishap.good

structure Stands (mishap : Mishap Config) (slots : Slots Config) (files : FileSystem)
    (deployment : Deployment Config Settings) : Prop where
  backing : deployment.store.backing = mishap.backing
  subscriptions : deployment.store.subscriptions = mishap.subscriptions
  slots : deployment.store.slots = slots
  files : deployment.files = files
  pending : deployment.listener.completion = .pending
  few : deployment.listener.subscriptions.length ≤ 2

abbrev Committed (mishap : Mishap Config) (deployment : Deployment Config Settings) : Prop :=
  mishap.Stands mishap.slots mishap.files deployment

structure Restored (mishap : Mishap Config) (deployment : Deployment Config Settings) : Prop
    extends mishap.Stands mishap.restoredSlots mishap.saved.1 deployment where
  saved : ∃ after, mishap.saved.2 = .ok after

/-- How far the listener has got, by the number of phases that lie ahead. -/
inductive Phase (mishap : Mishap Config) (deployment : Deployment Config Settings) : Nat → Prop where
  | notified {server : Server Config} (committed : mishap.Committed deployment)
      (stage : deployment.listener.stage = .waiting)
      (serving : deployment.listener.server = some server)
      (older : deployment.listener.version ≠ mishap.slots.version) (wakes : deployment.WillWake) :
      Phase mishap deployment 15
  | closing (committed : mishap.Committed deployment)
      (stage : deployment.listener.stage =
        .closing (some (mishap.slots.version, mishap.slots.current))) : Phase mishap deployment 14
  | launching (committed : mishap.Committed deployment)
      (stage : deployment.listener.stage =
        .launching .supervisor mishap.slots.version mishap.slots.current)
      (down : deployment.listener.server = none) : Phase mishap deployment 13
  | failed {error : ListenerError} (committed : mishap.Committed deployment)
      (unservable : mishap.results mishap.slots.version = .error error)
      (stage : deployment.listener.stage = .failed .supervisor error)
      (down : deployment.listener.server = none) : Phase mishap deployment 12
  | rollingBack {error : ListenerError} (committed : mishap.Committed deployment)
      (unservable : mishap.results mishap.slots.version = .error error)
      (stage : deployment.listener.stage = .rollingBack .supervisor error)
      (down : deployment.listener.server = none) : Phase mishap deployment 11
  | announcing {event : Event Config} (restored : mishap.Restored deployment)
      (stage : deployment.listener.stage = .announcing .supervisor event)
      (down : deployment.listener.server = none) (change : event.transition? ≠ none) :
      Phase mishap deployment 10
  | resumed (restored : mishap.Restored deployment) (stage : deployment.listener.stage = .waiting)
      (down : deployment.listener.server = none) (wakes : deployment.WillWake) :
      Phase mishap deployment 9
  | relaunching (restored : mishap.Restored deployment)
      (stage : deployment.listener.stage =
        .launching .supervisor mishap.restoredSlots.version mishap.good)
      (newest : deployment.listener.version = mishap.restoredSlots.version)
      (down : deployment.listener.server = none) : Phase mishap deployment 8
  | failedAgain {error : ListenerError} (restored : mishap.Restored deployment)
      (unservable : mishap.results mishap.restoredSlots.version = .error error)
      (stage : deployment.listener.stage = .failed .supervisor error)
      (down : deployment.listener.server = none) : Phase mishap deployment 7
  | serving {address : SocketAddress} (restored : mishap.Restored deployment)
      (served : mishap.results mishap.restoredSlots.version = .ok address)
      (serving : deployment.listener.IsServing
        ⟨mishap.restoredSlots.version, mishap.good, address⟩)
      (newest : deployment.listener.version = mishap.restoredSlots.version) :
      Phase mishap deployment 0
  | leavingAgain {error : ListenerError} {left : Nat} (saved : ∃ after, mishap.saved.2 = .ok after)
      (unservable : mishap.results mishap.restoredSlots.version = .error error)
      (slots : deployment.store.slots = mishap.restoredSlots)
      (files : deployment.files = mishap.saved.1) (down : deployment.listener.server = none)
      (subscriptions : deployment.store.subscriptions.count ≤ mishap.subscriptions.count)
      (leaving : deployment.listener.IsLeaving (.resolved (.error error)) left) :
      Phase mishap deployment left
  | leaving {error : ListenerError} {reason : ConfigError} {left : Nat}
      (refused : mishap.saved.2 = .error reason)
      (unservable : mishap.results mishap.slots.version = .error error)
      (slots : deployment.store.slots = mishap.slots) (down : deployment.listener.server = none)
      (subscriptions : deployment.store.subscriptions.count ≤ mishap.subscriptions.count)
      (leaving : deployment.listener.IsLeaving (.resolved (.error error)) left) :
      Phase mishap deployment left

end Mishap

namespace Mishap

variable {mishap : Mishap Config} {slots : Slots Config} {files : FileSystem}
  {deployment next : Deployment Config Settings} {ahead : Nat}

theorem Stands.pass (stands : mishap.Stands slots files deployment)
    (passes : deployment.Passes next) : mishap.Stands slots files next where
  backing := passes.backing.trans stands.backing
  subscriptions := passes.subscriptions.trans stands.subscriptions
  slots := passes.slots.trans stands.slots
  files := passes.files.trans stands.files
  pending := passes.completion.trans stands.pending
  few := passes.registered ▸ stands.few

theorem Stands.of_store (stands : mishap.Stands slots files deployment)
    (store : next.store = deployment.store) (sameFiles : next.files = deployment.files)
    (pending : next.listener.completion = .pending)
    (registered : next.listener.subscriptions = deployment.listener.subscriptions) :
    mishap.Stands slots files next where
  backing := store ▸ stands.backing
  subscriptions := store ▸ stands.subscriptions
  slots := store ▸ stands.slots
  files := sameFiles.trans stands.files
  pending := pending
  few := registered ▸ stands.few

theorem Restored.pass (restored : mishap.Restored deployment) (passes : deployment.Passes next) :
    mishap.Restored next :=
  ⟨restored.toStands.pass passes, restored.saved⟩

theorem isServing_pass {server : Server Config} (serving : deployment.listener.IsServing server)
    (passes : deployment.Passes next) : next.listener.IsServing server where
  stage := passes.stage.trans serving.stage
  state := passes.state.trans serving.state
  server := passes.server.trans serving.server
  pending := passes.completion.trans serving.pending

def Hears (mishap : Mishap Config) : Prop :=
  ∀ event : Event Config, event.transition? ≠ none →
    ∃ id, (id, Follower.listener) ∈ mishap.subscriptions.calls event

theorem Stands.isSubscribed (stands : mishap.Stands slots files deployment) (hears : mishap.Hears) :
    deployment.IsSubscribed := by
  unfold Deployment.IsSubscribed
  rw [stands.subscriptions]
  exact hears

theorem Stands.told_le (stands : mishap.Stands slots files deployment) :
    deployment.store.subscriptions.count ≤ mishap.subscriptions.count :=
  Nat.le_of_eq (congrArg Subscriptions.count stands.subscriptions)

theorem Phase.pass (phase : mishap.Phase deployment ahead) (hears : mishap.Hears)
    (passes : deployment.Passes next) : mishap.Phase next ahead := by
  cases phase with
  | notified committed stage serving older wakes =>
    exact .notified (committed.pass passes) (passes.stage.trans stage) (passes.server.trans serving)
      (passes.version.trans_ne older) (passes.wakes (committed.isSubscribed hears) wakes)
  | closing committed stage => exact .closing (committed.pass passes) (passes.stage.trans stage)
  | launching committed stage down =>
    exact .launching (committed.pass passes) (passes.stage.trans stage) (passes.server.trans down)
  | failed committed unservable stage down =>
    exact .failed (committed.pass passes) unservable (passes.stage.trans stage)
      (passes.server.trans down)
  | rollingBack committed unservable stage down =>
    exact .rollingBack (committed.pass passes) unservable (passes.stage.trans stage)
      (passes.server.trans down)
  | announcing restored stage down change =>
    exact .announcing (restored.pass passes) (passes.stage.trans stage) (passes.server.trans down)
      change
  | resumed restored stage down wakes =>
    exact .resumed (restored.pass passes) (passes.stage.trans stage) (passes.server.trans down)
      (passes.wakes (restored.isSubscribed hears) wakes)
  | relaunching restored stage newest down =>
    exact .relaunching (restored.pass passes) (passes.stage.trans stage)
      (passes.version.trans newest) (passes.server.trans down)
  | failedAgain restored unservable stage down =>
    exact .failedAgain (restored.pass passes) unservable (passes.stage.trans stage)
      (passes.server.trans down)
  | serving restored served serving newest =>
    exact .serving (restored.pass passes) served (isServing_pass serving passes)
      (passes.version.trans newest)
  | leavingAgain saved unservable slots files down subscriptions leaving =>
    exact .leavingAgain saved unservable (passes.slots.trans slots) (passes.files.trans files)
      (passes.server.trans down) (passes.subscriptions ▸ subscriptions)
      (leaving.congr passes.stage passes.state passes.registered passes.completion)
  | leaving refused unservable slots down subscriptions leaving =>
    exact .leaving refused unservable (passes.slots.trans slots) (passes.server.trans down)
      (passes.subscriptions ▸ subscriptions)
      (leaving.congr passes.stage passes.state passes.registered passes.completion)

/-- `next` is at a later phase, and an event may have started its calls; or it is at the same phase, with
less to tell and to deliver. -/
def Leads (mishap : Mishap Config) (deployment : Deployment Config Settings) (ahead : Nat)
    (next : Deployment Config Settings) : Prop :=
  let share := mishap.subscriptions.count
  ∃ left, mishap.Phase next left ∧
    (left < ahead ∧ next.burden share ≤ deployment.burden share + 2 * share ∨
      left = ahead ∧ (deployment.IsSettled ∨ next.burden share < deployment.burden share))

theorem Leads.later {left : Nat} (phase : mishap.Phase next left) (later : left < ahead)
    (burden : next.burden mishap.subscriptions.count ≤
      deployment.burden mishap.subscriptions.count) : mishap.Leads deployment ahead next :=
  ⟨left, phase, .inl ⟨later, Nat.le_add_right_of_le burden⟩⟩

theorem Phase.leads_of_passes (phase : mishap.Phase deployment ahead) (hears : mishap.Hears)
    (told : deployment.store.subscriptions.count ≤ mishap.subscriptions.count)
    (passes : deployment.Passes next) : mishap.Leads deployment ahead next :=
  ⟨ahead, phase.pass hears passes, .inr ⟨rfl, .inr (passes.lighter _ told)⟩⟩

section

variable [BEq Config] {follow : Event Config → Settings → Settings} {server : Server Config}
  {error : ListenerError} {event : Event Config} (hears : mishap.Hears)
  (step : Deployment.GoesOn follow mishap.results deployment next)

include hears step

theorem notified_leads (committed : mishap.Committed deployment)
    (stage : deployment.listener.stage = .waiting)
    (serving : deployment.listener.server = some server)
    (older : deployment.listener.version ≠ mishap.slots.version) (wakes : deployment.WillWake) :
    mishap.Leads deployment 15 next := by
  rcases step.of_waiting stage with passes | woken
  · exact (Phase.notified committed stage serving older wakes).leads_of_passes hears committed.told_le passes
  · rcases (Deployment.wake_cases woken).2.2 with ⟨_, _, same, _⟩ | ⟨_, _, _, rfl⟩ | ⟨down, _⟩
    · exact absurd (same.trans (congrArg Slots.version committed.slots)) older
    · refine .later (.closing (committed.of_store rfl rfl ?_ ?_) ?_) (by decide) ?_
      · simp [Listener.close, committed.pending]
      · simp [Listener.close]
      · rw [← committed.slots]
        rfl
      · exact Deployment.burden_le (by rfl) (by rfl) (by rfl) (by simp [Listener.close]) _
    · exact absurd (serving.symm.trans down) (by simp)

theorem closing_leads (committed : mishap.Committed deployment)
    (stage : deployment.listener.stage =
      .closing (some (mishap.slots.version, mishap.slots.current))) :
    mishap.Leads deployment 14 next := by
  rcases step.of_other (by simp [stage]) (by simp [stage]) with passes | proceeded
  · exact (Phase.closing committed stage).leads_of_passes hears committed.told_le passes
  · have relaunched := Deployment.eq_of_proceed_closing proceeded stage
    subst relaunched
    refine .later (.launching (committed.of_store rfl rfl ?_ ?_) rfl ?_) (by decide) ?_
    · simp [Listener.closed, Listener.launchOf, committed.pending]
    · simp [Listener.closed, Listener.launchOf]
    · simp [Listener.closed, Listener.launchOf]
    · exact Deployment.burden_le (by rfl) (by rfl) (by rfl) (by simp [Listener.closed, Listener.launchOf]) _

theorem launching_leads (unservable : mishap.results mishap.slots.version = .error error)
    (committed : mishap.Committed deployment)
    (stage : deployment.listener.stage =
      .launching .supervisor mishap.slots.version mishap.slots.current)
    (down : deployment.listener.server = none) : mishap.Leads deployment 13 next := by
  rcases step.of_launching stage with passes | launched
  · exact (Phase.launching committed stage down).leads_of_passes hears committed.told_le passes
  · rw [unservable] at launched
    have failed := Deployment.eq_of_launched_error launched stage
    subst failed
    exact .later (.failed (committed.of_store rfl rfl committed.pending rfl) unservable rfl down)
      (by decide) (Deployment.burden_le (by rfl) (by rfl) (by rfl) id _)

theorem failed_leads (displaced : mishap.slots.previous = some mishap.good)
    (committed : mishap.Committed deployment)
    (unservable : mishap.results mishap.slots.version = .error error)
    (stage : deployment.listener.stage = .failed .supervisor error)
    (down : deployment.listener.server = none) : mishap.Leads deployment 12 next := by
  rcases step.of_other (by simp [stage]) (by simp [stage]) with passes | proceeded
  · exact (Phase.failed committed unservable stage down).leads_of_passes hears committed.told_le passes
  · have way : deployment.store.slots.canRestore = true := by
      rw [Slots.canRestore, committed.slots, displaced]
      rfl
    have rolling := Deployment.eq_of_proceed_failed proceeded stage
    rw [if_pos way] at rolling
    subst rolling
    exact .later (.rollingBack (committed.of_store rfl rfl committed.pending rfl) unservable rfl down)
      (by decide) (Deployment.burden_le (by rfl) (by rfl) (by rfl) id _)

theorem rollingBack_leads (displaced : mishap.slots.previous = some mishap.good)
    (committed : mishap.Committed deployment)
    (unservable : mishap.results mishap.slots.version = .error error)
    (stage : deployment.listener.stage = .rollingBack .supervisor error)
    (down : deployment.listener.server = none) : mishap.Leads deployment 11 next := by
  rcases step.of_other (by simp [stage]) (by simp [stage]) with passes | proceeded
  · exact (Phase.rollingBack committed unservable stage down).leads_of_passes hears committed.told_le passes
  · have there : deployment.store.slots.previous = some mishap.good := committed.slots ▸ displaced
    have ways := Deployment.eq_of_proceed_rollingBack proceeded stage there
    rw [committed.backing, committed.slots, committed.files] at ways
    rcases ways with ⟨reason, refused, rfl⟩ | ⟨after, written, rfl⟩
    · have left : deployment.listener.subscriptions.length + 4 < 11 := by
        have few := committed.few
        omega
      exact .later (.leaving refused unservable committed.slots down committed.told_le (.unsubscribing rfl))
        left (Deployment.burden_le (by rfl) (by rfl) (by rfl) id _)
    · have slots : after = { mishap.slots with seen := some mishap.good } :=
        Backing.persist_slots (Prod.ext rfl written)
      refine .later (.announcing ⟨⟨?_, ?_, ?_, rfl, ?_, ?_⟩, after, written⟩ rfl down ?_) (by decide) ?_
      · exact committed.backing
      · exact committed.subscriptions
      · rw [slots]
        rfl
      · exact committed.pending
      · exact committed.few
      · simp [Event.transition?]
      · exact Deployment.burden_le (by rfl) (by rfl) (by rfl) id _

theorem announcing_leads (restored : mishap.Restored deployment)
    (stage : deployment.listener.stage = .announcing .supervisor event)
    (down : deployment.listener.server = none) (change : event.transition? ≠ none) :
    mishap.Leads deployment 10 next := by
  rcases step.of_other (by simp [stage]) (by simp [stage]) with passes | proceeded
  · exact (Phase.announcing restored stage down change).leads_of_passes hears restored.told_le passes
  · have resumed := Deployment.eq_of_proceed_announcing proceeded stage
    subst resumed
    -- The one event that is told during these phases: moving on pays for the calls that it starts.
    have called := (restored.isSubscribed hears).tell change (List.mem_singleton_self event)
    refine ⟨9, .resumed ⟨restored.of_store rfl rfl ?_ ?_, restored.saved⟩ rfl ?_ ?_, .inl ⟨by decide, ?_⟩⟩
    · simp [Listener.resume, restored.pending]
    · simp [Listener.resume]
    · simp [Listener.resume, down]
    · exact .inl (.inr ⟨event, called⟩)
    · have bound : deployment.store.subscriptions.count ≤ mishap.subscriptions.count := by
        rw [restored.subscriptions]
      have told := deployment.burden_tell [event] bound
      rw [List.length_singleton, Nat.mul_one] at told
      refine Nat.le_trans (Deployment.burden_le ?_ ?_ ?_ ?_ _) told
      · rfl
      · rfl
      · rfl
      · simp [Listener.resume, Deployment.tell]

theorem resumed_leads (restored : mishap.Restored deployment)
    (stage : deployment.listener.stage = .waiting) (down : deployment.listener.server = none)
    (wakes : deployment.WillWake) : mishap.Leads deployment 9 next := by
  rcases step.of_waiting stage with passes | woken
  · exact (Phase.resumed restored stage down wakes).leads_of_passes hears restored.told_le passes
  · rcases (Deployment.wake_cases woken).2.2 with ⟨_, up, _⟩ | ⟨_, up, _⟩ | ⟨_, rfl⟩
    · exact absurd (up.symm.trans down) (by simp)
    · exact absurd (up.symm.trans down) (by simp)
    · refine .later (.relaunching ⟨restored.of_store rfl rfl ?_ ?_, restored.saved⟩ ?_ ?_ ?_)
        (by decide) ?_
      · simp [Listener.launchOf, restored.pending]
      · simp [Listener.launchOf]
      · simp [Listener.launchOf, restored.slots, restoredSlots, Slots.rollBack]
      · simp [Listener.launchOf, restored.slots]
      · simp [Listener.launchOf, down]
      · exact Deployment.burden_le (by rfl) (by rfl) (by rfl) (by simp [Listener.launchOf]) _

theorem relaunching_leads (restored : mishap.Restored deployment)
    (stage : deployment.listener.stage =
      .launching .supervisor mishap.restoredSlots.version mishap.good)
    (newest : deployment.listener.version = mishap.restoredSlots.version)
    (down : deployment.listener.server = none) : mishap.Leads deployment 8 next := by
  rcases step.of_launching stage with passes | launched
  · exact (Phase.relaunching restored stage newest down).leads_of_passes hears restored.told_le passes
  · cases result : mishap.results mishap.restoredSlots.version with
    | ok address =>
      rw [result] at launched
      have served := Deployment.eq_of_launched_ok launched stage
      subst served
      have pending : (deployment.listener.serve mishap.restoredSlots.version mishap.good
          address).completion = .pending := by
        simp [Listener.serve, restored.pending]
      have registered : (deployment.listener.serve mishap.restoredSlots.version mishap.good
          address).subscriptions = deployment.listener.subscriptions := by
        simp [Listener.serve]
      refine .later (.serving ⟨restored.of_store rfl rfl pending registered, restored.saved⟩ result ?_ ?_)
        (by decide) ?_
      · exact ⟨rfl, Listener.enter_state _ _, rfl, pending⟩
      · simp [Listener.serve, newest]
      · exact Deployment.burden_le (by rfl) (by rfl) (by rfl) (by simp [Listener.serve]) _
    | error error =>
      rw [result] at launched
      have failed := Deployment.eq_of_launched_error launched stage
      subst failed
      exact .later
        (.failedAgain ⟨restored.of_store rfl rfl restored.pending rfl, restored.saved⟩ result rfl down)
        (by decide) (Deployment.burden_le (by rfl) (by rfl) (by rfl) id _)

theorem failedAgain_leads (restored : mishap.Restored deployment)
    (unservable : mishap.results mishap.restoredSlots.version = .error error)
    (stage : deployment.listener.stage = .failed .supervisor error)
    (down : deployment.listener.server = none) : mishap.Leads deployment 7 next := by
  rcases step.of_other (by simp [stage]) (by simp [stage]) with passes | proceeded
  · exact (Phase.failedAgain restored unservable stage down).leads_of_passes hears restored.told_le passes
  · have noWay : ¬deployment.store.slots.canRestore = true := by
      simp [Slots.canRestore, restored.slots, restoredSlots, Slots.rollBack]
    have gaveUp := Deployment.eq_of_proceed_failed proceeded stage
    rw [if_neg noWay] at gaveUp
    subst gaveUp
    have left : deployment.listener.subscriptions.length + 4 < 7 := by
      have few := restored.few
      omega
    exact .later
      (.leavingAgain restored.saved unservable restored.slots restored.files down restored.told_le
        (.unsubscribing rfl))
      left (Deployment.burden_le (by rfl) (by rfl) (by rfl) id _)

theorem serving_leads {address : SocketAddress} (restored : mishap.Restored deployment)
    (served : mishap.results mishap.restoredSlots.version = .ok address)
    (serving : deployment.listener.IsServing ⟨mishap.restoredSlots.version, mishap.good, address⟩)
    (newest : deployment.listener.version = mishap.restoredSlots.version) :
    mishap.Leads deployment 0 next := by
  have phase : mishap.Phase deployment 0 := .serving restored served serving newest
  rcases step.of_waiting serving.stage with passes | woken
  · exact phase.leads_of_passes hears restored.told_le passes
  · have current := newest.trans (congrArg Slots.version restored.slots).symm
    obtain ⟨_, reload, ways⟩ := Deployment.wake_cases woken
    rcases ways with ⟨_, _, _, rfl⟩ | ⟨_, _, older, _⟩ | ⟨down, _⟩
    · refine ⟨0, .serving ⟨restored.of_store rfl rfl restored.pending rfl, restored.saved⟩ served
        ⟨serving.stage, serving.state, serving.server, serving.pending⟩ newest, .inr ⟨rfl, .inr ?_⟩⟩
      simp [Deployment.burden, reload]
    · exact absurd current older
    · exact absurd (serving.server.symm.trans down) (by simp)

theorem leads_of_leaving (phase : mishap.Phase deployment ahead)
    (told : deployment.store.subscriptions.count ≤ mishap.subscriptions.count)
    (leaving : deployment.listener.IsLeaving (.resolved (.error error)) ahead)
    (nearer : ∀ farewell left, (deployment.leave (.resolved (.error error)) farewell).listener.IsLeaving
      (.resolved (.error error)) left →
        mishap.Phase (deployment.leave (.resolved (.error error)) farewell) left) :
    mishap.Leads deployment ahead next := by
  rcases leaving.stage_cases with ⟨_, other⟩ | ⟨farewell, stage⟩ | ⟨_, ended⟩
  · cases other
  · rcases step.of_other (by simp [stage]) (by simp [stage]) with passes | proceeded
    · exact phase.leads_of_passes hears told passes
    · cases (Deployment.proceed_of_leaving stage).symm.trans proceeded
      obtain ⟨left, rfl, further⟩ := leaving.leave stage
      exact .later (nearer farewell left further) (Nat.lt_succ_self left) (deployment.burden_leave _ _ _)
  · rcases step.of_other (by simp [ended]) (by simp [ended]) with passes | proceeded
    · exact phase.leads_of_passes hears told passes
    · simp [Deployment.proceed, ended] at proceeded

theorem Phase.leads (phase : mishap.Phase deployment ahead)
    (displaced : mishap.slots.previous = some mishap.good)
    (unservable : mishap.results mishap.slots.version = .error error) :
    mishap.Leads deployment ahead next := by
  cases phase with
  | notified committed stage serving older wakes =>
    exact notified_leads hears step committed stage serving older wakes
  | closing committed stage => exact closing_leads hears step committed stage
  | launching committed stage down =>
    exact launching_leads hears step unservable committed stage down
  | failed committed unservable stage down =>
    exact failed_leads hears step displaced committed unservable stage down
  | rollingBack committed unservable stage down =>
    exact rollingBack_leads hears step displaced committed unservable stage down
  | announcing restored stage down change =>
    exact announcing_leads hears step restored stage down change
  | resumed restored stage down wakes => exact resumed_leads hears step restored stage down wakes
  | relaunching restored stage newest down =>
    exact relaunching_leads hears step restored stage newest down
  | failedAgain restored unservable stage down =>
    exact failedAgain_leads hears step restored unservable stage down
  | serving restored served serving newest =>
    exact serving_leads hears step restored served serving newest
  | leavingAgain saved unservable slots files down told leaving =>
    refine leads_of_leaving hears step (.leavingAgain saved unservable slots files down told leaving) told
      leaving ?_
    intro farewell left nearer
    exact .leavingAgain saved unservable ((deployment.leave_slots _ _).trans slots) files
      ((Listener.leave_server _ _ _).trans down) ((deployment.leave_count_le _ _).trans told) nearer
  | leaving refused unservable slots down told leaving =>
    refine leads_of_leaving hears step (.leaving refused unservable slots down told leaving) told leaving ?_
    intro farewell left nearer
    exact .leaving refused unservable ((deployment.leave_slots _ _).trans slots)
      ((Listener.leave_server _ _ _).trans down) ((deployment.leave_count_le _ _).trans told) nearer

end

def measure (mishap : Mishap Config) (ahead : Nat) (deployment : Deployment Config Settings) : Nat :=
  (2 * mishap.subscriptions.count + 2) * ahead + deployment.burden mishap.subscriptions.count

theorem Leads.measure_lt (leads : mishap.Leads deployment ahead next)
    (unsettled : ¬deployment.IsSettled) :
    ∃ left, mishap.Phase next left ∧ mishap.measure left next < mishap.measure ahead deployment := by
  obtain ⟨left, phase, ⟨later, burden⟩ | ⟨rfl, settled | lighter⟩⟩ := leads
  · have room := Nat.mul_le_mul_left (2 * mishap.subscriptions.count + 2) (Nat.succ_le_of_lt later)
    rw [Nat.mul_succ] at room
    exact ⟨left, phase, by unfold measure; omega⟩
  · exact absurd settled unsettled
  · exact ⟨left, phase, by unfold measure; omega⟩

theorem Phase.started (phase : mishap.Phase deployment ahead) :
    deployment.listener.stage ≠ .fresh := by
  cases phase with
  | notified _ stage => simp [stage]
  | closing _ stage => simp [stage]
  | launching _ stage => simp [stage]
  | failed _ _ stage => simp [stage]
  | rollingBack _ _ stage => simp [stage]
  | announcing _ stage => simp [stage]
  | resumed _ stage => simp [stage]
  | relaunching _ stage => simp [stage]
  | failedAgain _ _ stage => simp [stage]
  | serving _ _ serving => simp [serving.stage]
  | leavingAgain _ _ _ _ _ _ leaving | leaving _ _ _ _ _ leaving =>
    rcases leaving.stage_cases with ⟨stage, _⟩ | ⟨farewell, stage⟩ | ⟨_, stage⟩ <;> simp [stage]

section

variable [BEq Config] {follow : Event Config → Settings → Settings} {error : ListenerError}
  (hears : mishap.Hears) (displaced : mishap.slots.previous = some mishap.good)
  (unservable : mishap.results mishap.slots.version = .error error)

include hears displaced unservable

theorem Phase.run (phase : mishap.Phase deployment ahead)
    (run : Relation.ReflTransGen (Deployment.GoesOn follow mishap.results) deployment next) :
    ∃ left, mishap.Phase next left := by
  induction run with
  | refl => exact ⟨ahead, phase⟩
  | tail _ step ih =>
    obtain ⟨middle, reached⟩ := ih
    obtain ⟨left, after, _⟩ := reached.leads hears step displaced unservable
    exact ⟨left, after⟩

theorem Phase.exists_settled (phase : mishap.Phase deployment ahead) :
    ∃ last, Relation.ReflTransGen (Deployment.GoesOn follow mishap.results) deployment last ∧
      last.IsSettled := by
  induction size : mishap.measure ahead deployment using Nat.strongRecOn
    generalizing deployment ahead with
  | ind size ih =>
    by_cases settled : deployment.IsSettled
    · exact ⟨deployment, .refl, settled⟩
    · obtain ⟨next, step⟩ :=
        Deployment.goesOn_of_not_settled follow mishap.results phase.started settled
      obtain ⟨left, after, smaller⟩ :=
        (phase.leads hears step displaced unservable).measure_lt settled
      obtain ⟨last, run, rest⟩ := ih (mishap.measure left next) (size ▸ smaller) after rfl
      exact ⟨last, .head step run, rest⟩

theorem Phase.settles (trail : Nat → Deployment Config Settings)
    (phase : mishap.Phase (trail 0) ahead)
    (goesOn : ∀ index, (trail index).IsSettled ∨
      Deployment.GoesOn follow mishap.results (trail index) (trail (index + 1))) :
    ∃ index, (trail index).IsSettled := by
  induction size : mishap.measure ahead (trail 0) using Nat.strongRecOn generalizing trail ahead with
  | ind size ih =>
    by_cases settled : (trail 0).IsSettled
    · exact ⟨0, settled⟩
    · have step := (goesOn 0).resolve_left settled
      obtain ⟨left, after, smaller⟩ :=
        (phase.leads hears step displaced unservable).measure_lt settled
      obtain ⟨index, reached⟩ := ih (mishap.measure left (trail 1)) (size ▸ smaller)
        (fun index => trail (index + 1)) after (fun index => goesOn (index + 1)) rfl
      exact ⟨index + 1, reached⟩

end

theorem ended_of_settled {verdict : Verdict} {left : Nat} (settled : deployment.IsSettled)
    (leaving : deployment.listener.IsLeaving verdict left) : deployment.listener.stage = .ended := by
  rcases settled with ended | ⟨waiting, _⟩
  · exact ended
  · rcases leaving.stage_cases with ⟨stage, _⟩ | ⟨farewell, stage⟩ | ⟨_, ended⟩
    · cases waiting.symm.trans stage
    · cases waiting.symm.trans stage
    · exact ended

theorem Phase.outcome (phase : mishap.Phase deployment ahead) (settled : deployment.IsSettled) :
    ((∃ after, mishap.saved.2 = .ok after) ∧ deployment.store.slots = mishap.restoredSlots ∧
        deployment.files = mishap.saved.1 ∧
        ((∃ address, mishap.results mishap.restoredSlots.version = .ok address ∧
            deployment.listener.IsServing ⟨mishap.restoredSlots.version, mishap.good, address⟩) ∨
          ∃ error, mishap.results mishap.restoredSlots.version = .error error ∧
            deployment.listener.HasEnded error)) ∨
      ∃ reason error, mishap.saved.2 = .error reason ∧
        mishap.results mishap.slots.version = .error error ∧
        deployment.store.slots = mishap.slots ∧ deployment.listener.HasEnded error := by
  cases phase with
  | notified _ stage _ _ wakes =>
    rcases settled with ended | ⟨_, quiet⟩
    · simp [stage] at ended
    · exact absurd wakes quiet.not_willWake
  | closing _ stage => simp [Deployment.IsSettled, stage] at settled
  | launching _ stage => simp [Deployment.IsSettled, stage] at settled
  | failed _ _ stage => simp [Deployment.IsSettled, stage] at settled
  | rollingBack _ _ stage => simp [Deployment.IsSettled, stage] at settled
  | announcing _ stage => simp [Deployment.IsSettled, stage] at settled
  | resumed _ stage _ wakes =>
    rcases settled with ended | ⟨_, quiet⟩
    · simp [stage] at ended
    · exact absurd wakes quiet.not_willWake
  | relaunching _ stage => simp [Deployment.IsSettled, stage] at settled
  | failedAgain _ _ stage => simp [Deployment.IsSettled, stage] at settled
  | serving restored served serving =>
    exact .inl ⟨restored.saved, restored.slots, restored.files, .inl ⟨_, served, serving⟩⟩
  | leavingAgain saved unservable slots files down _ leaving =>
    exact .inl ⟨saved, slots, files, .inr ⟨_, unservable, leaving.hasEnded down (ended_of_settled settled leaving)⟩⟩
  | leaving refused unservable slots down _ leaving =>
    exact .inr ⟨_, _, refused, unservable, slots, leaving.hasEnded down (ended_of_settled settled leaving)⟩

end Mishap

def Stage.isSupervised : Stage Config → Bool
  | .fresh => false
  | .subscribing _ => false
  | .reading => false
  | .launching origin _ _ => origin = .supervisor
  | .failed origin _ => origin = .supervisor
  | .rollingBack origin _ => origin = .supervisor
  | .announcing origin _ => origin = .supervisor
  | .waiting => true
  | .closing _ => true
  | .leaving _ (.refused _) => false
  | .leaving _ (.resolved _) => true
  | .ended => false

namespace Deployment

def IsManned (deployment : Deployment Config Settings) : Prop :=
  deployment.listener.stage.isSupervised = true → deployment.listener.completion = .pending

theorem Act.isManned {deployment : Deployment Config Settings} {move : Move Config}
    {store : ConfigStore Config Follower} {listener : Listener Config}
    (act : deployment.Act move store listener) (held : deployment.IsManned)
    (supervised : listener.stage.isSupervised = true) : listener.completion = .pending := by
  unfold IsManned at held
  cases act with
  | outside | ignore => exact held supervised
  | start | subscribe | read => cases supervised
  | @giveUp origin error reason stage =>
    cases origin with
    | start => cases supervised
    | supervisor => rcases stage with stage | stage <;> rw [stage] at held <;> exact held rfl
  | @leave farewell verdict stage =>
    rw [stage] at held
    rcases Listener.leave_cases stage with ⟨⟨next, later⟩, same⟩ | ⟨ended, _⟩
    · rw [later] at supervised
      cases verdict with
      | refused error => cases supervised
      | resolved outcome => exact same.trans (held rfl)
    · rw [ended] at supervised
      cases supervised
  | rollBack stage | restored stage | notServed stage | serverFailed stage =>
    rw [stage] at held
    exact held supervised
  | @resume origin event stage =>
    rw [stage] at held
    cases origin with
    | start => cases supervised
    | supervisor => exact (Listener.enter_completion _ _).trans (held rfl)
  | relaunch stage =>
    rw [stage] at held
    simp only [Listener.closed, Listener.launchOf, Listener.enter_completion]
    exact held rfl
  | @served origin version config address stage =>
    rw [stage] at held
    cases origin with
    | start => rfl
    | supervisor => exact held rfl
  | quit stage =>
    rw [stage] at held
    exact held rfl
  | closed stage | replace stage | launch stage | close stage =>
    rw [stage] at held
    exact (Listener.enter_completion _ _).trans (held rfl)

theorem Act.subscriptions_le {deployment : Deployment Config Settings} {move : Move Config}
    {store : ConfigStore Config Follower} {listener : Listener Config}
    (act : deployment.Act move store listener) (few : deployment.listener.subscriptions.length ≤ 2) :
    listener.subscriptions.length ≤ 2 := by
  cases act with
  | outside | start | rollBack | giveUp | restored | notServed | ignore | quit | serverFailed => exact few
  | subscribe => exact Nat.le_refl 2
  | read | relaunch | closed | served | replace | launch | close =>
    simpa [Listener.launchOf, Listener.closed, Listener.serve, Listener.close] using few
  | @resume origin =>
    cases origin <;> simpa [Listener.resume] using few
  | @leave farewell =>
    cases farewell with
    | unsubscribing =>
      cases subscriptions : deployment.listener.subscriptions with
      | nil => simp [Listener.leave, subscriptions]
      | cons id rest =>
        rw [subscriptions] at few
        simp only [Listener.leave, subscriptions]
        exact Nat.le_of_succ_le few
    | terminating => simpa [Listener.leave] using few
    | withdrawing | reporting => exact few

theorem Step.isManned [BEq Config] {follow : Event Config → Settings → Settings}
    {deployment next : Deployment Config Settings} {move : Move Config}
    (step : Step follow deployment move next) (held : deployment.IsManned) : next.IsManned :=
  step.act.isManned held

theorem run_subscriptions_le [BEq Config] {follow : Event Config → Settings → Settings}
    {initial reached : Deployment Config Settings} {moves : List (Move Config)} {name : String}
    (built : initial.listener = .built name) (run : initial.run follow moves = some reached) :
    reached.listener.subscriptions.length ≤ 2 := by
  refine run_induction (fun step few => step.act.subscriptions_le few) run ?_
  rw [built]
  exact Nat.zero_le 2

def mishap [BEq Config] (deployment : Deployment Config Settings) (command : Command Config)
    (results : Nat → Except ListenerError SocketAddress) : Mishap Config :=
  let outcome := deployment.store.backing.perform deployment.store.slots deployment.files command
  { backing := deployment.store.backing
    subscriptions := deployment.store.subscriptions
    slots := outcome.slots
    files := outcome.files
    good := deployment.store.slots.current
    results := results }

theorem phase_enact [BEq Config] {deployment : Deployment Config Settings} {command : Command Config}
    {results : Nat → Except ListenerError SocketAddress} {server : Server Config}
    (quiet : deployment.IsQuiet) (subscribed : deployment.IsSubscribed)
    (manned : deployment.listener.completion = .pending)
    (stage : deployment.listener.stage = .waiting)
    (serving : deployment.listener.server = some server)
    (newest : deployment.listener.version = deployment.store.slots.version)
    (few : deployment.listener.subscriptions.length ≤ 2) (committed : (deployment.mishap command results).slots.version =
      deployment.store.slots.version + 1) :
    (deployment.mishap command results).Phase (deployment.enact command) 15 := by
  refine .notified ⟨rfl, rfl, rfl, rfl, manned, few⟩ stage serving ?_ ?_
  · rw [committed]
    change deployment.listener.version ≠ _
    omega
  · rcases (carries_enact deployment command quiet.released).slots subscribed with
      ⟨same, _⟩ | ⟨_, wakes⟩
    · exact absurd (same.symm.trans committed) (by omega)
    · exact wakes

theorem MissesNothing.serving {deployment : Deployment Config Settings}
    (missesNothing : deployment.MissesNothing) (waiting : deployment.listener.stage = .waiting)
    (quiet : deployment.IsQuiet) :
    deployment.IsSubscribed ∧ deployment.listener.version = deployment.store.slots.version ∧
      ∃ server, deployment.listener.server = some server := by
  simp only [MissesNothing, waiting] at missesNothing
  obtain ⟨subscribed, serves⟩ := missesNothing
  cases serving : deployment.listener.server with
  | none =>
    rw [serving] at serves
    exact absurd (.inl serves) quiet.not_willWake
  | some server =>
    rw [serving] at serves
    have current := serves.1.fresh.resolve_right quiet.not_willWake
    exact ⟨subscribed, serves.2.newest.trans current, server, rfl⟩

/-- A value that was committed and cannot be served is rolled back, if the value before can be written to
the file again; then the listener serves that, or ends with the error of launching it.  If it cannot be
written, then the listener ends with the error that it had.  It can always come to this, and whatever goes on
does come to this. -/
theorem unservable_commit_is_rolled_back [BEq Config] (follow : Event Config → Settings → Settings)
    (results : Nat → Except ListenerError SocketAddress) (initial deployment : Deployment Config Settings)
    (moves : List (Move Config)) (name : String) (built : initial.listener = .built name)
    (run : initial.run follow moves = some deployment)
    (waiting : deployment.listener.stage = .waiting) (quiet : deployment.IsQuiet)
    (command : Command Config) (source : Source)
    (committed : (deployment.store.backing.perform deployment.store.slots deployment.files
      command).counts = [.commit source])
    (error : ListenerError)
    (unservable : results (deployment.store.slots.version + 1) = .error error) :
    let version := deployment.store.slots.version
    let good := deployment.store.slots.current
    let backing := deployment.store.backing
    let outcome := backing.perform deployment.store.slots deployment.files command
    let saved := backing.persist outcome.slots outcome.files good
    let start := deployment.enact command
    (∀ reached, Relation.ReflTransGen (GoesOn follow results) start reached →
      (∃ last, Relation.ReflTransGen (GoesOn follow results) reached last ∧ last.IsSettled) ∧
      (reached.IsSettled →
        (∃ after content, saved.2 = .ok after ∧ backing.format.encode good = .ok content ∧
          reached.files.Holds backing.path content ∧ reached.store.slots.current = good ∧
          reached.store.slots.version = version + 2 ∧ reached.store.slots.previous = none ∧
          ((∃ address, results (version + 2) = .ok address ∧
              reached.listener.IsServing ⟨version + 2, good, address⟩) ∨
            ∃ again, results (version + 2) = .error again ∧ reached.listener.HasEnded again)) ∨
        ∃ reason, saved.2 = .error reason ∧ reached.store.slots = outcome.slots ∧
          reached.store.slots.version = version + 1 ∧ reached.listener.HasEnded error)) ∧
    ∀ trail : Nat → Deployment Config Settings, trail 0 = start →
      (∀ index, (trail index).IsSettled ∨
        GoesOn follow results (trail index) (trail (index + 1))) →
      ∃ index, (trail index).IsSettled := by
  intro version good backing outcome saved start
  have fresh : initial.MissesNothing := by
    unfold MissesNothing
    rw [built]
    rfl
  have missesNothing : deployment.MissesNothing := run_induction Step.missesNothing run fresh
  have unmanned : initial.IsManned := by
    unfold IsManned
    rw [built]
    exact nofun
  have manned : deployment.IsManned := run_induction Step.isManned run unmanned
  obtain ⟨subscribed, newest, server, serving⟩ := missesNothing.serving waiting quiet
  have effect : Effect deployment.store.slots outcome := backing.perform_effect _ _ command
  obtain ⟨newer, displaced⟩ := effect.of_commit committed
  let mishap := deployment.mishap command results
  have hears : mishap.Hears := subscribed
  have unservableHere : mishap.results mishap.slots.version = .error error := by
    rw [← unservable, ← newer]
    rfl
  have phase : mishap.Phase start 15 :=
    phase_enact quiet subscribed (manned (by rw [waiting]; rfl)) waiting serving newest
      (run_subscriptions_le built run) newer
  have restoredVersion : mishap.restoredSlots.version = version + 2 :=
    congrArg Nat.succ newer
  constructor
  · intro reached run
    obtain ⟨left, phase⟩ := phase.run hears displaced unservableHere run
    refine ⟨phase.exists_settled hears displaced unservableHere, fun settled => ?_⟩
    rcases phase.outcome settled with
      ⟨⟨after, written⟩, slots, files, served⟩ | ⟨reason, other, refused, result, slots, ended⟩
    · obtain ⟨content, encoded, holds⟩ := Backing.holds_of_persist written
      rw [restoredVersion] at served
      refine .inl ⟨after, content, written, encoded, files ▸ holds, ?_, ?_, ?_, served⟩
      · rw [slots]
        rfl
      · rw [slots, restoredVersion]
      · rw [slots]
        rfl
    · rw [unservableHere, Except.error.injEq] at result
      subst result
      exact .inr ⟨reason, refused, slots, slots ▸ newer, ended⟩
  · intro trail begins goesOn
    exact Mishap.Phase.settles hears displaced unservableHere trail (begins ▸ phase) goesOn

theorem unservable_commit_is_rolled_back_to_first_value :
    let address : SocketAddress := ⟨.v4 [127, 0, 0, 1], 8000⟩
    let results : Nat → Except ListenerError SocketAddress := fun version =>
      if version = 1 then .error (.addressNotConfigured "main") else .ok address
    let initial : Deployment Bytes Unit :=
      ⟨⟨⟨⟨.ok, .ok⟩, ⟨"a"⟩⟩, .initial [49], .empty, []⟩, .fresh [], .built "main", (), [], [], []⟩
    let moves : List (Move Bytes) := [.start, .proceed, .proceed, .launched (.ok address)]
    let deployment := (initial.run (fun _ settings => settings) moves).getD initial
    let start := deployment.enact (.reloadSeeing fun _ => .ok [50])
    deployment.IsQuiet ∧ start.store.slots.current = [50] ∧
      ∃ reached, Relation.ReflTransGen (GoesOn (fun _ settings => settings) results) start reached ∧
        reached.IsSettled ∧ reached.listener.IsServing ⟨2, [49], address⟩ ∧
        reached.store.slots.previous = none ∧ reached.files.Holds ⟨"a"⟩ [49] := by
  intro address results initial moves deployment start
  have run : initial.run (fun _ settings => settings) moves = some deployment := rfl
  have quiet : deployment.IsQuiet := ⟨rfl, rfl, fun _ => List.not_mem_nil, rfl⟩
  have written : (deployment.store.backing.persist start.store.slots start.files
      deployment.store.slots.current).2.isOk = true := by
    decide +kernel
  have rolledBack := unservable_commit_is_rolled_back _ results initial deployment moves "main" rfl run
    rfl quiet (.reloadSeeing fun _ => .ok [50]) .file rfl _ rfl
  obtain ⟨reached, goesOn, settled⟩ := (rolledBack.1 start .refl).1
  refine ⟨quiet, by decide +kernel, reached, goesOn, settled, ?_⟩
  rcases (rolledBack.1 reached goesOn).2 settled with
    ⟨_, content, _, encoded, holds, _, _, previous, ⟨_, served, serving⟩ | ⟨_, failed, _⟩⟩ |
      ⟨_, refused, _⟩
  · cases encoded
    cases served
    exact ⟨serving, previous, holds⟩
  · cases failed
  · cases written.symm.trans (congrArg Except.isOk refused)

end Deployment

end LiveService
