import LiveService.Proofs.Net.Announcing
import LiveService.Proofs.Net.FirstStart
import LiveService.Proofs.Store.History
import Mathlib.Data.List.TakeWhile

/-!
What is counted about a listener.  The counts of a run are those of the listener's own moves and those of the
operations that others run on the store.  A failure is counted when the configuration is rolled back for it; the one
that ends the listener is not.
-/

namespace LiveService

variable {Config Settings : Type}

structure Outcome.IsCounted (slots : Slots Config) (outcome : Outcome Config) : Prop where
  version : outcome.slots.version = slots.version + Count.changes outcome.counts
  restart : ∀ name succeeded, outcome.counts.count (.restart name succeeded) = 0
  rollback : ∀ name, outcome.counts.count (.rollback name) = 0

theorem Effect.isCounted {slots : Slots Config} {outcome : Outcome Config} (effect : Effect slots outcome) :
    outcome.IsCounted slots := by
  have version : outcome.slots.version = slots.version + Count.changes outcome.counts := by
    rcases effect.moves_together with ⟨version, _, _, changes⟩ | ⟨version, _, changes⟩ <;> omega
  cases effect with
  | kept _ _ _ _ _ counts =>
    rcases counts with counts | counts <;> refine ⟨version, ?_, ?_⟩ <;> intros <;> rw [counts] <;> rfl
  | committed _ _ _ _ _ counts => refine ⟨version, ?_, ?_⟩ <;> intros <;> rw [counts] <;> rfl
  | restored _ _ _ _ _ counts => refine ⟨version, ?_, ?_⟩ <;> intros <;> rw [counts] <;> rfl

namespace Backing

variable {backing : Backing Config} {slots : Slots Config} {files : FileSystem}

theorem restore_counts_of_error {error : ConfigError} (failed : (backing.restore slots files).result = .error error) :
    (backing.restore slots files).counts = [] := by
  cases former : slots.previous with
  | none =>
    simp only [restore, former]
    rfl
  | some value =>
    simp only [restore, former] at failed ⊢
    rcases saved : backing.persist slots files value with ⟨written, refusal | after⟩
    · rfl
    · rw [saved] at failed
      cases failed

theorem restore_counts_of_ok (done : (backing.restore slots files).result = .ok .done) :
    (backing.restore slots files).counts = [.restore] := by
  cases former : slots.previous with
  | none =>
    simp only [restore, former] at done
    cases done
  | some value =>
    simp only [restore, former] at done ⊢
    rcases saved : backing.persist slots files value with ⟨written, refusal | after⟩
    · rw [saved] at done
      cases done
    · rfl

end Backing

def Move.isServeFailure : Move Config → Bool
  | .serverFailed _ => true
  | _ => false

def failures (moves : List (Move Config)) : Nat :=
  (launchResults moves).countP (fun result => !result.isOk) + moves.countP Move.isServeFailure

theorem failures_concat (moves : List (Move Config)) (move : Move Config) :
    failures (moves ++ [move]) = failures moves + move.failure?.isSome.toNat := by
  rw [failures, failures, launchResults_concat, List.countP_append, List.countP_append, List.countP_singleton]
  cases move with
  | launched result =>
    cases result with
    | ok address => rfl
    | error error =>
      change _ + 1 + (_ + 0) = _ + _ + 1
      omega
  | _ => rfl

def relaunches (moves : List (Move Config)) : List (Except ListenerError SocketAddress) :=
  ((launchResults moves).dropWhile fun result => !result.isOk).tail

theorem isSome_lastOf_bound? (moves : List (Move Config)) :
    (lastOf Move.bound? moves).isSome = (launchResults moves).any Except.isOk := by
  induction moves using List.reverseRecOn with
  | nil => rfl
  | append_singleton moves move known =>
    rw [lastOf_concat, launchResults_concat, List.any_append, ← known]
    cases move with
    | launched result => cases result <;> simp [Move.bound?, Move.launchResult?, Except.isOk, Except.toBool]
    | _ => simp [Move.bound?, Move.launchResult?]

theorem relaunches_concat (moves : List (Move Config)) (move : Move Config) :
    relaunches (moves ++ [move]) = relaunches moves ++
      if (lastOf Move.bound? moves).isSome then move.launchResult?.toList else [] := by
  rw [relaunches, relaunches, launchResults_concat, isSome_lastOf_bound?, List.dropWhile_append]
  cases served : (launchResults moves).any Except.isOk with
  | false =>
    have none : (launchResults moves).dropWhile (fun result => !result.isOk) = [] := by
      simpa [List.dropWhile_eq_nil_iff] using served
    rw [none]
    cases move.launchResult? with
    | none => rfl
    | some result => cases result <;> rfl
  | true =>
    have some : (launchResults moves).dropWhile (fun result => !result.isOk) ≠ [] := by
      simpa [List.dropWhile_eq_nil_iff] using served
    obtain ⟨first, rest, split⟩ := List.exists_cons_of_ne_nil some
    rw [split]
    rfl

def Completion.isFailure : Completion → Bool
  | .refused _ => true
  | .resolved (.error _) => true
  | _ => false

def Stage.isLaunching : Stage Config → Bool
  | .launching _ _ _ => true
  | _ => false

/-- A failure was not counted: it is being dealt with, or it ends the listener. -/
def Listener.owesRollback (listener : Listener Config) : Bool :=
  match listener.stage with
  | .failed _ _ => true
  | .rollingBack _ _ => true
  | .announcing _ _ => true
  | .leaving _ verdict => verdict.completion.isFailure
  | .ended => listener.completion.isFailure
  | _ => false

@[simp] theorem Listener.enter_name (listener : Listener Config) (state : ListenerState) :
    (listener.enter state).name = listener.name := by
  unfold enter
  split <;> rfl

theorem Listener.leave_name (listener : Listener Config) (verdict : Verdict) (farewell : Farewell) :
    (listener.leave verdict farewell).name = listener.name := by
  cases farewell with
  | unsubscribing =>
    simp only [leave]
    split <;> rfl
  | terminating => exact listener.enter_name _
  | withdrawing | reporting => rfl

theorem Origin.verdict_isFailure (error : ListenerError) (origin : Origin) :
    (origin.verdict error).completion.isFailure = true := by
  cases origin <;> rfl

theorem Listener.owesRollback_leave {listener : Listener Config} {verdict : Verdict} {farewell : Farewell}
    (stage : listener.stage = .leaving farewell verdict) :
    (listener.leave verdict farewell).owesRollback = listener.owesRollback := by
  simp only [owesRollback, stage]
  rcases leave_cases stage with ⟨⟨next, later⟩, _⟩ | ⟨ended, told⟩
  · rw [later]
  · rw [ended]
    exact congrArg Completion.isFailure told

namespace Deployment

section Acts

variable {deployment : Deployment Config Settings} {move : Move Config}
  {store : ConfigStore Config Follower} {listener : Listener Config}

theorem Act.name_eq (act : deployment.Act move store listener) : listener.name = deployment.listener.name := by
  cases act with
  | outside | start | subscribe | rollBack | giveUp | restored | notServed | ignore | quit
  | serverFailed => rfl
  | leave => exact deployment.listener.leave_name _ _
  | @resume origin => cases origin <;> simp [Listener.resume]
  | read | relaunch | closed | served | replace | launch | close =>
    simp [Listener.launchOf, Listener.closed, Listener.serve, Listener.close]

theorem Act.launches (act : deployment.Act move store listener) :
    listener.launches.length + deployment.listener.stage.isLaunching.toNat =
      deployment.listener.launches.length + listener.stage.isLaunching.toNat +
        move.launchResult?.toList.length := by
  cases act with
  | outside outside =>
    rw [Move.launchResult?_of_isOutside outside]
    rfl
  | ignore => rfl
  | start stage | subscribe stage | read stage | rollBack stage | restored stage | notServed stage
  | launch stage | quit stage | serverFailed stage =>
    rw [stage]
    rfl
  | relaunch stage =>
    simp [stage, Listener.closed, Listener.launchOf, Stage.isLaunching, Move.launchResult?]
  | @resume origin event stage =>
    cases origin <;> simp [stage, Listener.resume, Stage.isLaunching, Move.launchResult?]
  | giveUp stage =>
    rcases stage with stage | stage
    · rw [stage]
      rfl
    · rw [stage]
      rfl
  | leave stage =>
    rw [Listener.leave_launches, stage]
    rcases Listener.leave_cases stage with ⟨⟨next, later⟩, _⟩ | ⟨ended, _⟩
    · rw [later]
      rfl
    · rw [ended]
      rfl
  | closed stage | served stage | replace stage | close stage =>
    simp [stage, Listener.closed, Listener.serve, Listener.close, Stage.isLaunching, Move.launchResult?]

end Acts

def ownCounts (deployment : Deployment Config Settings) : Move Config → List Count
  | .launched result =>
    match deployment.listener.stage with
    | .launching .supervisor _ _ => [.restart deployment.listener.name result.isOk]
    | _ => []
  | .proceed =>
    match deployment.listener.stage with
    | .rollingBack _ _ => (deployment.store.backing.restore deployment.store.slots deployment.files).counts
    | .announcing _ _ => [.rollback deployment.listener.name]
    | _ => []
  | _ => []

theorem ownCounts_cases (deployment : Deployment Config Settings) (move : Move Config) :
    deployment.ownCounts move = [] ∨ deployment.ownCounts move = [.restore] ∨
      deployment.ownCounts move = [.rollback deployment.listener.name] ∨
      ∃ result, move = .launched result ∧
        deployment.ownCounts move = [.restart deployment.listener.name result.isOk] := by
  unfold ownCounts
  split
  · split
    · exact .inr (.inr (.inr ⟨_, rfl, rfl⟩))
    · exact .inl rfl
  · split
    · rcases deployment.store.backing.restore_cases deployment.store.slots deployment.files with
        ⟨_, failed⟩ | ⟨_, done, _⟩
      · exact .inl (Backing.restore_counts_of_error failed)
      · exact .inr (.inl (Backing.restore_counts_of_ok done))
    · exact .inr (.inr (.inl rfl))
    · exact .inl rfl
  · exact .inl rfl

theorem changes_ownCounts (deployment : Deployment Config Settings) (move : Move Config) :
    Count.changes (deployment.ownCounts move) = (deployment.ownCounts move).count .restore := by
  rcases deployment.ownCounts_cases move with own | own | own | ⟨result, _, own⟩
  · rw [own]
    rfl
  · rw [own]
    rfl
  · rw [own]
    rfl
  · rw [own]
    rfl

/-- What was counted on a run, of which `ours` is by the listener and `others` is not. -/
structure IsBalanced (initial : Deployment Config Settings) (moves : List (Move Config)) (ours others : List Count)
    (deployment : Deployment Config Settings) : Prop where
  name : deployment.listener.name = initial.listener.name
  counts : ∀ count, deployment.counts.count count =
    initial.counts.count count + ours.count count + others.count count
  version : deployment.store.slots.version =
    initial.store.slots.version + ours.count .restore + Count.changes others
  foreignRestarts : ∀ name succeeded, others.count (.restart name succeeded) = 0
  foreignRollbacks : ∀ name, others.count (.rollback name) = 0
  restarts : ∀ succeeded, ours.count (.restart initial.listener.name succeeded) =
    (relaunches moves).countP fun result => result.isOk == succeeded
  rollbacks : ours.count (.rollback initial.listener.name) + deployment.listener.owesRollback.toNat =
    failures moves
  announcing : ours.count (.rollback initial.listener.name) +
    deployment.listener.stage.announcing?.isSome.toNat = ours.count .restore
  launches : deployment.listener.launches.length =
    (launchResults moves).length + deployment.listener.stage.isLaunching.toNat

theorem isBalanced_built {initial : Deployment Config Settings} {name : String}
    (built : initial.listener = .built name) :
    initial.IsBalanced [] [] [] initial where
  name := rfl
  counts _ := rfl
  version := rfl
  foreignRestarts _ _ := rfl
  foreignRollbacks _ := rfl
  restarts _ := rfl
  rollbacks := by
    rw [built]
    rfl
  announcing := by
    rw [built]
    rfl
  launches := by
    rw [built]
    rfl

def othersCounts [BEq Config] (deployment : Deployment Config Settings) : Move Config → List Count
  | .operate command => (deployment.store.backing.perform deployment.store.slots deployment.files command).counts
  | .enact command => (deployment.store.backing.perform deployment.store.slots deployment.files command).counts
  | _ => []

variable [BEq Config] {follow : Event Config → Settings → Settings}
  {initial deployment next reached : Deployment Config Settings} {move : Move Config}
  {moves : List (Move Config)}

theorem perform_isCounted (deployment : Deployment Config Settings) (command : Command Config) :
    (deployment.store.backing.perform deployment.store.slots deployment.files command).IsCounted
      deployment.store.slots :=
  (deployment.store.backing.perform_effect deployment.store.slots deployment.files command).isCounted

structure IsBooked (deployment : Deployment Config Settings) (move : Move Config)
    (next : Deployment Config Settings) : Prop where
  counts : next.counts = deployment.counts ++ (deployment.ownCounts move ++ deployment.othersCounts move)
  version : next.store.slots.version = deployment.store.slots.version +
    (Count.changes (deployment.ownCounts move) + Count.changes (deployment.othersCounts move))

theorem IsBooked.idle (counts : next.counts = deployment.counts)
    (slots : next.store.slots = deployment.store.slots) (own : deployment.ownCounts move = [])
    (others : deployment.othersCounts move = []) : deployment.IsBooked move next := by
  constructor
  · rw [counts, own, others]
    exact (List.append_nil _).symm
  · rw [slots, own, others]
    rfl

theorem Step.isBooked (step : Step follow deployment move next) : deployment.IsBooked move next := by
  cases step with
  | operate command | enact command =>
    have counted := deployment.perform_isCounted command
    exact ⟨rfl, counted.version.trans (congrArg _ (Nat.zero_add _).symm)⟩
  | release | announce | tellListener | tellSettings | changeFiles | start | ignore | replace | launch | close
  | quit | serverFailed => exact .idle rfl rfl rfl rfl
  | askToStop =>
    refine .idle ?_ ?_ rfl rfl <;> unfold Deployment.askToStop <;> split <;> rfl
  | subscribe stage | read stage | rollBack stage | giveUp stage | relaunch stage | closed stage
  | started stage | startFailed stage => exact .idle rfl rfl (by simp only [ownCounts, stage]) rfl
  | restoreFailed stage _ failed =>
    refine .idle rfl rfl ?_ rfl
    simp only [ownCounts, stage]
    exact Backing.restore_counts_of_error failed
  | leave stage =>
    obtain ⟨subscriptions, left⟩ := deployment.leave_eq _ _
    exact .idle (by rw [left]) (by rw [left]) (by simp only [ownCounts, stage]) rfl
  | restored stage _ done =>
    have counted := deployment.perform_isCounted .restore
    have own : deployment.ownCounts .proceed =
        (deployment.store.backing.restore deployment.store.slots deployment.files).counts := by
      simp only [ownCounts, stage]
    constructor
    · rw [own]
      exact congrArg (deployment.counts ++ ·) (List.append_nil _).symm
    · rw [own]
      exact counted.version
  | resume stage | restarted stage | restartFailed stage =>
    constructor
    · simp only [ownCounts, stage]
      rfl
    · simp only [ownCounts, stage]
      rfl

theorem Act.owesRollback {store : ConfigStore Config Follower} {listener : Listener Config}
    (act : deployment.Act move store listener) :
    listener.owesRollback.toNat + (deployment.ownCounts move).count (.rollback deployment.listener.name) =
      deployment.listener.owesRollback.toNat + move.failure?.isSome.toNat := by
  cases act with
  | outside outside =>
    rw [Move.failure?_of_isOutside outside]
    have own : deployment.ownCounts move = [] := by
      cases move with
      | launched | proceed => cases outside
      | _ => rfl
    rw [own]
    rfl
  | ignore => rfl
  | start stage | replace stage | launch stage | close stage | quit stage | serverFailed stage =>
    simp only [Listener.owesRollback, stage]
    rfl
  | subscribe stage | read stage | rollBack stage | relaunch stage | closed stage =>
    simp only [ownCounts, Listener.owesRollback, stage]
    rfl
  | @giveUp origin error reason stage refused =>
    have owed : deployment.listener.owesRollback = true := by
      rcases stage with stage | stage <;> simp only [Listener.owesRollback, stage]
    have own : deployment.ownCounts .proceed = [] := by
      rcases stage with stage | stage <;> simp only [ownCounts, stage]
      exact Backing.restore_counts_of_error refused
    rw [own, owed]
    exact congrArg (fun owes => Bool.toNat owes + 0) (origin.verdict_isFailure error)
  | leave stage =>
    rw [Listener.owesRollback_leave stage]
    simp only [ownCounts, stage]
    rfl
  | restored stage =>
    have foreign : (deployment.store.backing.restore deployment.store.slots deployment.files).counts.count
        (.rollback deployment.listener.name) = 0 :=
      (deployment.perform_isCounted .restore).rollback deployment.listener.name
    simp only [ownCounts, Listener.owesRollback, stage, foreign]
    rfl
  | @resume origin event stage =>
    simp only [ownCounts, Listener.owesRollback, stage, List.count_singleton_self]
    cases origin <;> rfl
  | @served origin version config address stage =>
    simp only [ownCounts, Listener.owesRollback, stage]
    cases origin <;> rfl
  | @notServed origin version config error stage =>
    simp only [ownCounts, Listener.owesRollback, stage]
    cases origin <;> rfl

theorem Step.announcing (step : Step follow deployment move next) :
    next.listener.stage.announcing?.isSome.toNat +
        (deployment.ownCounts move).count (.rollback deployment.listener.name) =
      deployment.listener.stage.announcing?.isSome.toNat + (deployment.ownCounts move).count .restore := by
  cases step with
  | operate | enact | release | announce | tellListener | tellSettings | changeFiles | ignore => rfl
  | askToStop =>
    unfold Deployment.askToStop
    split <;> rfl
  | start stage | replace stage | launch stage | close stage | quit stage | serverFailed stage =>
    rw [stage]
    rfl
  | subscribe stage | read stage | rollBack stage | giveUp stage | relaunch stage | closed stage
  | started stage | startFailed stage | restarted stage | restartFailed stage =>
    simp only [ownCounts, stage]
    rfl
  | restoreFailed stage _ failed =>
    simp only [ownCounts, stage, Backing.restore_counts_of_error failed]
    rfl
  | leave stage =>
    simp only [ownCounts, Deployment.leave, Listener.announcing?_leave stage, stage]
    rfl
  | restored stage _ done =>
    simp only [ownCounts, stage, Backing.restore_counts_of_ok done]
    rfl
  | @resume origin event stage =>
    simp only [ownCounts, stage, List.count_singleton_self, Listener.announcing?_resume]
    rfl

theorem Step.restarts {started : Bool} (step : Step follow deployment move next)
    (supervised : deployment.listener.stage ≠ .ended → deployment.listener.stage.isSupervised = started)
    (succeeded : Bool) :
    (deployment.ownCounts move).count (.restart deployment.listener.name succeeded) =
      (if started then move.launchResult?.toList else []).countP fun result => result.isOk == succeeded := by
  have silent (other : move.launchResult? = none) :
      (deployment.ownCounts move).count (.restart deployment.listener.name succeeded) = 0 := by
    rcases deployment.ownCounts_cases move with own | own | own | ⟨_, rfl, _⟩
    · rw [own]
      rfl
    · rw [own]
      rfl
    · rw [own]
      rfl
    · cases other
  cases move with
  | launched result =>
    obtain ⟨origin, stage⟩ : ∃ origin, ∃ version config,
        deployment.listener.stage = .launching origin version config := by
      cases step with
      | started stage | startFailed stage | restarted stage | restartFailed stage => exact ⟨_, _, _, stage⟩
    obtain ⟨version, config, stage⟩ := stage
    rw [stage] at supervised
    rw [← supervised nofun]
    simp only [ownCounts, stage]
    cases origin with
    | start => rfl
    | supervisor => simp [Stage.isSupervised, Move.launchResult?, List.count_singleton, List.countP_singleton]
  | _ =>
    rw [silent rfl]
    cases started <;> rfl

theorem othersCounts_foreign (deployment : Deployment Config Settings) (move : Move Config) (name : String) :
    (∀ succeeded, (deployment.othersCounts move).count (.restart name succeeded) = 0) ∧
      (deployment.othersCounts move).count (.rollback name) = 0 := by
  cases move with
  | operate command | enact command =>
    have counted := deployment.perform_isCounted command
    exact ⟨counted.restart name, counted.rollback name⟩
  | _ => exact ⟨fun _ => rfl, rfl⟩

theorem IsBalanced.step {ours others : List Count} (balanced : initial.IsBalanced moves ours others deployment)
    (supervised : deployment.listener.stage ≠ .ended →
      deployment.listener.stage.isSupervised = (lastOf Move.bound? moves).isSome)
    (step : Step follow deployment move next) :
    initial.IsBalanced (moves ++ [move]) (ours ++ deployment.ownCounts move)
      (others ++ deployment.othersCounts move) next := by
  obtain ⟨name, counts, version, foreignRestarts, foreignRollbacks, restarts, rollbacks, announcing, launches⟩ :=
    balanced
  obtain ⟨booked, further⟩ := step.isBooked
  have foreign := deployment.othersCounts_foreign move
  constructor
  · exact step.act.name_eq.trans name
  · intro count
    have before := counts count
    simp only [booked, List.count_append]
    omega
  · have own := deployment.changes_ownCounts move
    simp only [List.count_append, Count.changes_append]
    omega
  · intro name succeeded
    rw [List.count_append, foreignRestarts, (foreign name).1]
  · intro name
    rw [List.count_append, foreignRollbacks, (foreign name).2]
  · intro succeeded
    have own := step.restarts supervised succeeded
    rw [name] at own
    rw [List.count_append, relaunches_concat, List.countP_append, restarts, own]
  · have own := step.act.owesRollback
    rw [name] at own
    rw [List.count_append, failures_concat]
    omega
  · have own := step.announcing
    rw [name] at own
    rw [List.count_append, List.count_append]
    omega
  · have own := step.act.launches
    rw [launchResults_concat, List.length_append]
    omega

theorem run_isBalanced {name : String} (built : initial.listener = .built name)
    (run : initial.run follow moves = some reached) :
    initial.IsBalanced moves (initial.seen ownCounts follow moves) (initial.seen othersCounts follow moves)
      reached := by
  refine run_history (fun moves deployment => initial.IsBalanced moves (initial.seen ownCounts follow moves)
    (initial.seen othersCounts follow moves) deployment) (isBalanced_built built) ?_ run
  intro moves deployment move next earlier step balanced
  rw [seen_concat earlier, seen_concat earlier]
  exact balanced.step (fun running => ((run_isUnderstood built earlier).awaited running).started) step

/-- Whatever others do on a run of a listener of a name of its own.  It counts a restart for each launch that the
supervisor has made, and whether it succeeded.  It counts a rollback for each launch and each server that has failed,
except for the failure that it still deals with or that has ended it.  Each rollback comes with one count of a
restore and with one version; what else there is of these comes from the operations of others. -/
theorem failures_are_accounted_for (follow : Event Config → Settings → Settings)
    (initial reached : Deployment Config Settings) (moves : List (Move Config)) (name : String)
    (built : initial.listener = .built name)
    (unknown : .rollback name ∉ initial.counts ∧ ∀ succeeded, .restart name succeeded ∉ initial.counts)
    (run : initial.run follow moves = some reached) :
    let restarts := fun succeeded => reached.counts.count (.restart name succeeded)
    let rollbacks := reached.counts.count (.rollback name)
    let others := initial.seen othersCounts follow moves
    let announced := rollbacks + reached.listener.stage.announcing?.isSome.toNat
    (restarts true + restarts false = (relaunches moves).length ∧
      restarts true = (relaunches moves).countP Except.isOk ∧
      reached.listener.launches.length =
        (launchResults moves).length + reached.listener.stage.isLaunching.toNat) ∧
    (rollbacks + reached.listener.owesRollback.toNat = failures moves ∧
      (reached.listener.stage = .ended →
        rollbacks + reached.listener.completion.isFailure.toNat = failures moves)) ∧
    reached.counts.count .restore = initial.counts.count .restore + others.count .restore + announced ∧
    reached.store.slots.version = initial.store.slots.version + Count.changes others + announced := by
  intro restarts rollbacks others announced
  have balanced := run_isBalanced built run
  have named : initial.listener.name = name := congrArg Listener.name built
  have restarted (succeeded : Bool) :
      restarts succeeded = (relaunches moves).countP fun result => result.isOk == succeeded := by
    have counted := balanced.counts (.restart name succeeded)
    have fresh := List.count_eq_zero.mpr (unknown.2 succeeded)
    have foreign := balanced.foreignRestarts name succeeded
    have ours := balanced.restarts succeeded
    rw [named] at ours
    change reached.counts.count (.restart name succeeded) = _
    omega
  have ours : rollbacks = (initial.seen ownCounts follow moves).count (.rollback name) := by
    have counted := balanced.counts (.rollback name)
    have fresh := List.count_eq_zero.mpr unknown.1
    have foreign := balanced.foreignRollbacks name
    omega
  have owed : rollbacks + reached.listener.owesRollback.toNat = failures moves := by
    rw [ours, ← named]
    exact balanced.rollbacks
  have restored : announced = (initial.seen ownCounts follow moves).count .restore := by
    change rollbacks + _ = _
    rw [ours, ← named]
    exact balanced.announcing
  refine ⟨⟨?_, ?_, balanced.launches⟩, ⟨owed, ?_⟩, ?_, ?_⟩
  · rw [restarted, restarted, (relaunches moves).length_eq_countP_add_countP Except.isOk]
    congr 1
    · exact List.countP_congr fun result _ => by simp
    · exact List.countP_congr fun result _ => by simp
  · rw [restarted]
    exact List.countP_congr fun result _ => by simp
  · intro ended
    rw [← owed, Listener.owesRollback, ended]
  · rw [restored, balanced.counts]
    exact Nat.add_right_comm _ _ _
  · rw [restored, balanced.version]
    exact Nat.add_right_comm _ _ _

theorem failures_are_accounted_for_until_the_end :
    let others : Subscriptions Bytes Follower := ⟨2, [], [], [(1, .settings)], []⟩
    let initial : Deployment Bytes Unit :=
      ⟨⟨⟨⟨.ok, .ok⟩, ⟨"a"⟩⟩, (Slots.initial [49]).commit [50], others, []⟩, .fresh [], .built "main", (),
        [], [], [.commit .file, .rollback "other"]⟩
    let address : SocketAddress := ⟨.v4 [127, 0, 0, 1], 8000⟩
    let error : ListenerError := .addressNotConfigured "main"
    let moves : List (Move Bytes) :=
      [.start, .proceed, .proceed, .launched (.error error), .proceed, .proceed, .proceed, .proceed,
        .launched (.ok address), .operate (.set [51]), .deliver 0, .wake, .proceed, .launched (.ok address),
        .serverFailed error, .proceed, .proceed, .proceed, .deliver 1, .wake, .launched (.error error)] ++
        List.replicate 7 .proceed
    (.rollback "main" ∉ initial.counts ∧ ∀ succeeded, .restart "main" succeeded ∉ initial.counts) ∧
      ∃ reached, initial.run (fun _ settings => settings) moves = some reached ∧
        reached.listener.owesRollback = true ∧ failures moves = 3 ∧ reached.counts.count (.rollback "main") = 2 ∧
        reached.counts.count (.restart "main" true) = 1 ∧
        reached.counts.count (.restart "main" true) + reached.counts.count (.restart "main" false) = 2 ∧
        reached.counts.count .restore = 2 ∧ reached.store.slots.version = 4 := by
  intro others initial address error moves
  have unknown : .rollback "main" ∉ initial.counts ∧
      ∀ succeeded, .restart "main" succeeded ∉ initial.counts := by
    decide +kernel
  have facts : (initial.run (fun _ settings => settings) moves).map (fun reached =>
      (reached.listener.owesRollback, reached.listener.stage.announcing?.isSome)) = some (true, false) := by
    decide +kernel
  obtain ⟨reached, run, facts⟩ := Option.map_eq_some_iff.mp facts
  simp only [Prod.mk.injEq] at facts
  obtain ⟨owes, silent⟩ := facts
  obtain ⟨⟨restarts, succeeded, _⟩, ⟨rollbacks, _⟩, restores, version⟩ :=
    failures_are_accounted_for _ initial reached moves "main" rfl unknown run
  have failed : failures moves = 3 := rfl
  have foreign : (initial.seen othersCounts (fun _ settings => settings) moves) = [.commit .api] := by
    decide +kernel
  rw [owes, failed] at rollbacks
  have twice : reached.counts.count (.rollback "main") = 2 := Nat.succ.inj rollbacks
  rw [foreign, twice, silent] at restores version
  exact ⟨unknown, reached, run, owes, failed, twice, succeeded, restarts, restores, version⟩

end Deployment

end LiveService
