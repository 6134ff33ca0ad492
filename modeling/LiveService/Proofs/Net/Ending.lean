import LiveService.Net.Running
import LiveService.Proofs.Net.Recovery
import LiveService.Proofs.Net.Succession
import LiveService.Proofs.Store.Registry

/-!
How a listener ends.  Whoever started it is told once, of the request that the supervisor has followed or of the
failure that could not be rolled back; nothing is left of the listener then, and nothing brings it back.
-/

namespace LiveService

def Completion.isOver : Completion → Bool
  | .unstarted => false
  | .refused _ => true
  | .pending => false
  | .resolved _ => true

namespace Listener

variable {Config : Type} {listener next : Listener Config} {moves : List (Move Config)}
  {move : Move Config}

theorem isSupervised_of_isOver (told : listener.completion.isOver = true) :
    listener.isSupervised = false := by
  unfold isSupervised
  split
  · rename_i pending
    rw [pending] at told
    cases told
  · rfl

structure IsAwaited (listener : Listener Config) (moves : List (Move Config)) : Prop where
  completion : listener.completion = if listener.stage.isSupervised then .pending else .unstarted
  started : listener.stage.isSupervised = (lastOf Move.bound? moves).isSome

theorem IsAwaited.stay (awaited : listener.IsAwaited moves)
    (supervised : next.stage.isSupervised = listener.stage.isSupervised)
    (completion : next.completion = listener.completion) (unbound : move.bound? = none) :
    next.IsAwaited (moves ++ [move]) where
  completion := by
    rw [completion, supervised]
    exact awaited.completion
  started := by
    rw [lastOf_concat, unbound, supervised]
    exact awaited.started

structure Obeys (listener : Listener Config) (moves : List (Move Config)) : Prop where
  going : .halt ∉ moves
  requested : listener.stopAsked = true → .askToStop ∈ moves

theorem mem_concat_iff {Element : Type} {one other : Element} {list : List Element}
    (different : one ≠ other) : one ∈ list ++ [other] ↔ one ∈ list := by
  simp only [List.mem_append, List.mem_singleton, different, or_false]

theorem Obeys.stay (obeys : listener.Obeys moves) (stopAsked : next.stopAsked = listener.stopAsked)
    (going : .halt ≠ move) : next.Obeys (moves ++ [move]) where
  going := by
    rw [mem_concat_iff going]
    exact obeys.going
  requested := by
    intro asked
    exact List.mem_append_left _ (obeys.requested (stopAsked ▸ asked))

def FailsBy (listener : Listener Config) (moves : List (Move Config)) : Prop :=
  match listener.stage with
  | .failed _ error => lastOf Move.failure? moves = some error
  | .rollingBack _ error => lastOf Move.failure? moves = some error
  | _ => True

theorem FailsBy.concat (fails : listener.FailsBy moves) (well : move.failure? = none) :
    listener.FailsBy (moves ++ [move]) := by
  unfold FailsBy at fails ⊢
  rw [lastOf_concat, well]
  exact fails

theorem FailsBy.last {origin : Origin} {error : ListenerError} (fails : listener.FailsBy moves)
    (stage : listener.stage = .failed origin error ∨ listener.stage = .rollingBack origin error) :
    lastOf Move.failure? moves = some error := by
  unfold FailsBy at fails
  rcases stage with stage | stage
  · rw [stage] at fails
    exact fails
  · rw [stage] at fails
    exact fails

def IsRegistered (listener : Listener Config) (first registry : Subscriptions Config Follower) : Prop :=
  match listener.stage with
  | .fresh => registry = first
  | .subscribing modified =>
    modified = first.nextId ∧ registry = (first.onModified .listener).2
  | .leaving .unsubscribing _ => first.Remains .listener listener.subscriptions registry
  | .leaving _ _ => registry = { first with nextId := first.nextId + 2 }
  | .ended => registry = { first with nextId := first.nextId + 2 }
  | _ =>
    listener.subscriptions = [first.nextId, first.nextId + 1] ∧
      registry = ((first.onModified .listener).2.onRestored .listener).2

end Listener

namespace Deployment

variable {Config Settings : Type} {deployment : Deployment Config Settings} {move : Move Config}
  {moves : List (Move Config)} {store : ConfigStore Config Follower} {listener : Listener Config}

theorem Act.isAwaited (act : deployment.Act move store listener)
    (awaited : deployment.listener.IsAwaited moves) (running : listener.stage ≠ .ended) :
    listener.IsAwaited (moves ++ [move]) := by
  cases act with
  | outside outside => exact awaited.stay rfl rfl (Move.bound?_of_isOutside outside)
  | ignore => exact awaited.stay rfl rfl rfl
  | start stage | subscribe stage | rollBack stage | restored stage | notServed stage | quit stage
  | serverFailed stage => exact awaited.stay (by rw [stage]; rfl) rfl rfl
  | read stage | closed stage | replace stage | launch stage | close stage =>
    exact awaited.stay (by rw [stage]; rfl) (Listener.enter_completion _ _) rfl
  | @giveUp origin error reason stage =>
    refine awaited.stay ?_ rfl rfl
    cases origin with
    | start => rcases stage with stage | stage <;> rw [stage] <;> rfl
    | supervisor => rcases stage with stage | stage <;> rw [stage] <;> rfl
  | relaunch stage =>
    refine awaited.stay (by rw [stage]; rfl) ?_ rfl
    simp only [Listener.closed, Listener.launchOf, Listener.enter_completion]
  | @leave farewell verdict stage =>
    rcases Listener.leave_cases stage with ⟨⟨next, later⟩, completion⟩ | ⟨ended, _⟩
    · refine awaited.stay ?_ completion rfl
      rw [later, stage]
      cases verdict <;> rfl
    · exact absurd ended running
  | @resume origin event stage =>
    cases origin with
    | start => exact awaited.stay (by rw [stage]; rfl) rfl rfl
    | supervisor => exact awaited.stay (by rw [stage]; rfl) (Listener.enter_completion _ _) rfl
  | @served origin version config address stage =>
    refine ⟨?_, ?_⟩
    · cases origin with
      | start => rfl
      | supervisor =>
        have pending := awaited.completion
        rw [stage] at pending
        exact pending
    · rw [lastOf_concat]
      rfl

theorem Act.obeys (act : deployment.Act move store listener) (obeys : deployment.listener.Obeys moves)
    (going : listener.stage.isLeaving = false) : listener.Obeys (moves ++ [move]) := by
  cases act with
  | outside outside later asked =>
    have going : .halt ≠ move := by
      rintro rfl
      cases outside
    refine ⟨?_, ?_⟩
    · rw [Listener.mem_concat_iff going]
      exact obeys.going
    · intro stopAsked
      rcases asked with same | ⟨rfl, _⟩
      · exact List.mem_append_left _ (obeys.requested (same.symm.trans stopAsked))
      · exact List.mem_append_right _ List.mem_cons_self
  | start | subscribe | rollBack | giveUp | restored | notServed | ignore | serverFailed =>
    exact obeys.stay rfl (by simp)
  | read | closed | served | replace | launch => exact obeys.stay (Listener.enter_stopAsked _ _) (by simp)
  | leave => exact obeys.stay (Listener.leave_stopAsked _ _ _) (by simp)
  | relaunch =>
    refine obeys.stay ?_ (by simp)
    simp only [Listener.closed, Listener.launchOf, Listener.enter_stopAsked]
  | @resume origin event stage =>
    cases origin with
    | start => exact obeys.stay rfl (by simp)
    | supervisor => exact obeys.stay (Listener.enter_stopAsked _ _) (by simp)
  | close | quit => cases going

theorem Act.failsBy (act : deployment.Act move store listener)
    (fails : deployment.listener.FailsBy moves) : listener.FailsBy (moves ++ [move]) := by
  cases act with
  | outside outside => exact fails.concat (Move.failure?_of_isOutside outside)
  | rollBack stage =>
    have last := fails.last (.inl stage)
    exact (lastOf_concat _ _ _).trans last
  | notServed | serverFailed => exact lastOf_concat _ _ _
  | ignore stage => exact fails.concat rfl
  | @resume origin event stage =>
    cases origin with
    | start => trivial
    | supervisor => trivial
  | leave stage =>
    unfold Listener.FailsBy
    rcases Listener.leave_cases stage with ⟨⟨next, later⟩, _⟩ | ⟨ended, _⟩
    · rw [later]
      trivial
    · rw [ended]
      trivial
  | start | subscribe | read | giveUp | restored | relaunch | closed | served | replace | launch | close
  | quit => trivial

theorem remains_of_registered {first : Subscriptions Config Follower}
    (registered : deployment.listener.subscriptions = [first.nextId, first.nextId + 1] ∧
      deployment.store.subscriptions = ((first.onModified .listener).2.onRestored .listener).2) :
    first.Remains .listener deployment.listener.subscriptions deployment.store.subscriptions := by
  rw [registered.1, registered.2]
  exact .both

theorem leave_isRegistered {first : Subscriptions Config Follower} {verdict : Verdict}
    {farewell : Farewell} (stage : deployment.listener.stage = .leaving farewell verdict)
    (numbered : first.IsNumbered)
    (registered : deployment.listener.IsRegistered first deployment.store.subscriptions) :
    (deployment.listener.leave verdict farewell).IsRegistered first
      (deployment.leave verdict farewell).store.subscriptions := by
  simp only [Listener.IsRegistered, stage] at registered
  cases farewell with
  | unsubscribing =>
    dsimp only at registered
    cases ids : deployment.listener.subscriptions with
    | cons id rest =>
      rw [ids] at registered
      simp only [Listener.leave, leave, ids, Listener.IsRegistered, stage]
      exact numbered.unsubscribe_remains registered
    | nil =>
      rw [ids] at registered
      have registry : deployment.store.subscriptions = { first with nextId := first.nextId + 2 } :=
        registered.eq_of_nil
      simp only [Listener.leave, leave, ids, Listener.IsRegistered]
      cases verdict <;> exact registry
  | withdrawing | terminating | reporting => exact registered

theorem Act.isRegistered (act : deployment.Act move store listener)
    {first : Subscriptions Config Follower} (numbered : first.IsNumbered)
    (registered : deployment.listener.IsRegistered first deployment.store.subscriptions) :
    listener.IsRegistered first store.subscriptions := by
  have held := registered
  unfold Listener.IsRegistered at held
  cases act with
  | outside | ignore => exact registered
  | start stage =>
    rw [stage] at held
    dsimp only at held
    rw [held]
    exact ⟨rfl, rfl⟩
  | subscribe stage =>
    rw [stage] at held
    obtain ⟨rfl, registry⟩ := held
    rw [registry]
    exact ⟨rfl, rfl⟩
  | rollBack stage | restored stage | notServed stage | serverFailed stage =>
    rw [stage] at held
    exact held
  | read stage | served stage | replace stage | launch stage | close stage =>
    rw [stage] at held
    exact ⟨(Listener.enter_subscriptions _ _).trans held.1, held.2⟩
  | @resume origin event stage =>
    rw [stage] at held
    cases origin with
    | start => exact held
    | supervisor => exact ⟨(Listener.enter_subscriptions _ _).trans held.1, held.2⟩
  | relaunch stage =>
    rw [stage] at held
    refine ⟨?_, held.2⟩
    simp only [Listener.closed, Listener.launchOf, Listener.enter_subscriptions]
    exact held.1
  | giveUp stage refused =>
    rcases stage with stage | stage
    · rw [stage] at held
      exact remains_of_registered held
    · rw [stage] at held
      exact remains_of_registered held
  | closed stage =>
    rw [stage] at held
    have remains := remains_of_registered held
    rw [← deployment.listener.enter_subscriptions .idle] at remains
    exact remains
  | quit stage =>
    rw [stage] at held
    exact remains_of_registered held
  | leave stage => exact leave_isRegistered stage numbered registered

theorem Act.own_of_isLeaving (act : deployment.Act move store listener)
    (leaving : deployment.listener.stage.isLeaving = true) : move.isOutside = true ∨ move = .proceed := by
  cases act with
  | outside outside => exact .inl outside
  | subscribe | read | rollBack | giveUp | restored | resume | relaunch | closed | leave => exact .inr rfl
  | start stage | served stage | notServed stage | ignore stage | replace stage | launch stage
  | close stage | quit stage | serverFailed stage => simp [stage, Stage.isLeaving] at leaving

theorem exists_halt (waiting : deployment.listener.stage = .waiting)
    (asked : deployment.listener.stopAsked = true) :
    ∃ next left, deployment.halt = some next ∧ next.listener.IsLeaving (.resolved (.ok ())) left := by
  cases serving : deployment.listener.server with
  | none =>
    refine ⟨_, _, by simp only [halt, waiting, asked, serving, if_true]; rfl, .unsubscribing rfl⟩
  | some server =>
    refine ⟨_, _, by simp only [halt, waiting, asked, serving, if_true]; rfl, .closing rfl⟩

variable [BEq Config] {follow : Event Config → Settings → Settings}
  {initial reached : Deployment Config Settings}

/-- How a run ends a listener, by what the caller of `start` is told.  Either the supervisor has followed a request to
stop, or it was then that the last failure could not be rolled back. -/
inductive Ending (follow : Event Config → Settings → Settings) (initial : Deployment Config Settings)
    (moves : List (Move Config)) : Completion → Prop where
  | stopped (halted : .halt ∈ moves) (asked : .askToStop ∈ moves) :
      Ending follow initial moves (.resolved (.ok ()))
  | failed {between : Deployment Config Settings} {origin : Origin} {error : ListenerError}
      {reason : ConfigError} (going : .halt ∉ moves)
      (comesBy : initial.ComesBy follow moves between)
      (stage : between.listener.stage = .failed origin error ∨
        between.listener.stage = .rollingBack origin error)
      (refused : (between.store.backing.restore between.store.slots between.files).result =
        .error reason)
      (gaveUp : ∃ after, Step follow between .proceed after ∧
        after.listener.stage = .leaving .unsubscribing (origin.verdict error))
      (last : lastOf Move.failure? moves = some error)
      (started : decide (origin = .supervisor) = (lastOf Move.bound? moves).isSome) :
      Ending follow initial moves (origin.verdict error).completion

theorem Ending.concat {completion : Completion} (ending : initial.Ending follow moves completion)
    (going : .halt ≠ move) (well : move.failure? = none) (unbound : move.bound? = none) :
    initial.Ending follow (moves ++ [move]) completion := by
  cases ending with
  | stopped halted asked =>
    exact .stopped (List.mem_append_left _ halted) (List.mem_append_left _ asked)
  | failed other comesBy stage refused gaveUp last started =>
    refine .failed ?_ (comesBy.concat move) stage refused gaveUp ?_ ?_
    · rw [Listener.mem_concat_iff going]
      exact other
    · rw [lastOf_concat, well]
      exact last
    · rw [lastOf_concat, unbound]
      exact started

theorem Act.ending (act : deployment.Act move store listener)
    (earlier : initial.run follow moves = some deployment)
    (going : deployment.listener.stage.isLeaving = false)
    (awaited : deployment.listener.IsAwaited moves) (obeys : deployment.listener.Obeys moves)
    (fails : deployment.listener.FailsBy moves)
    (last : ∃ after, Step follow deployment move after ∧ after.listener = listener)
    (leaving : listener.stage.isLeaving = true) :
    ∃ verdict left, listener.IsLeaving verdict left ∧
      initial.Ending follow (moves ++ [move]) verdict.completion := by
  cases act with
  | outside | ignore => cases going.symm.trans leaving
  | start | subscribe | read | rollBack | restored | relaunch | served | notServed | replace | launch
  | serverFailed => cases leaving
  | @resume origin event stage =>
    cases origin with
    | start => cases leaving
    | supervisor => cases leaving
  | closed stage | leave stage =>
    rw [stage] at going
    cases going
  | @giveUp origin error reason stage refused =>
    have supervised : deployment.listener.stage.isSupervised = decide (origin = .supervisor) := by
      rcases stage with stage | stage
      · rw [stage]
        rfl
      · rw [stage]
        rfl
    obtain ⟨after, step, left⟩ := last
    refine ⟨origin.verdict error, _, .unsubscribing rfl, ?_⟩
    refine .failed ?_ ((ComesBy.last earlier).concat .proceed) stage refused
      ⟨after, step, congrArg Listener.stage left⟩ ?_ ?_
    · rw [Listener.mem_concat_iff (by simp)]
      exact obeys.going
    · rw [lastOf_concat]
      exact fails.last stage
    · rw [lastOf_concat, ← supervised]
      exact awaited.started
  | close stage asked =>
    refine ⟨_, _, .closing rfl, .stopped (List.mem_append_right _ List.mem_cons_self) ?_⟩
    exact List.mem_append_left _ (obeys.requested asked)
  | quit stage asked =>
    refine ⟨_, _, .unsubscribing rfl, .stopped (List.mem_append_right _ List.mem_cons_self) ?_⟩
    exact List.mem_append_left _ (obeys.requested asked)

structure IsUnderstood (follow : Event Config → Settings → Settings)
    (initial : Deployment Config Settings) (moves : List (Move Config)) (listener : Listener Config) :
    Prop where
  awaited : listener.stage ≠ .ended → listener.IsAwaited moves
  obeys : listener.stage.isLeaving = false → listener.Obeys moves
  fails : listener.FailsBy moves
  ending : listener.stage.isLeaving = true → ∃ verdict left, listener.IsLeaving verdict left ∧
    initial.Ending follow moves verdict.completion

theorem run_isUnderstood {name : String} (built : initial.listener = .built name)
    (run : initial.run follow moves = some reached) :
    initial.IsUnderstood follow moves reached.listener := by
  refine run_history (fun moves deployment => initial.IsUnderstood follow moves deployment.listener)
    ?_ ?_ run
  · rw [built]
    exact ⟨fun _ => ⟨rfl, rfl⟩, fun _ => ⟨nofun, nofun⟩, trivial, nofun⟩
  · intro moves deployment move next earlier step held
    have act := step.act
    have awaited (running : next.listener.stage ≠ .ended) : next.listener.IsAwaited (moves ++ [move]) :=
      act.isAwaited (held.awaited fun ended => running (act.ended ended)) running
    cases leaving : deployment.listener.stage.isLeaving with
    | true =>
      obtain ⟨verdict, left, stands, ending⟩ := held.ending leaving
      obtain ⟨fewer, nearer, _⟩ := act.isLeaving stands
      refine ⟨awaited, fun going => ?_, act.failsBy held.fails, fun _ => ⟨verdict, fewer, nearer, ?_⟩⟩
      · cases going.symm.trans nearer.isLeaving
      -- Whatever others do then is no failure, no launch and no halt.
      · rcases act.own_of_isLeaving leaving with outside | rfl
        · refine ending.concat ?_ (Move.failure?_of_isOutside outside) (Move.bound?_of_isOutside outside)
          rintro rfl
          cases outside
        · exact ending.concat (by simp) rfl rfl
    | false =>
      have running : deployment.listener.stage ≠ .ended := by
        intro ended
        rw [ended] at leaving
        cases leaving
      exact ⟨awaited, act.obeys (held.obeys leaving), act.failsBy held.fails,
        act.ending earlier leaving (held.awaited running) (held.obeys leaving) held.fails
          ⟨next, step, rfl⟩⟩

theorem Ending.isOver {completion : Completion} (ending : initial.Ending follow moves completion) :
    completion.isOver = true := by
  cases ending with
  | stopped => rfl
  | @failed between origin =>
    cases origin with
    | start => rfl
    | supervisor => rfl

theorem Ending.stopped_iff {completion : Completion}
    (ending : initial.Ending follow moves completion) :
    completion = .resolved (.ok ()) ↔ .halt ∈ moves := by
  cases ending with
  | stopped halted asked => exact ⟨fun _ => halted, fun _ => rfl⟩
  | @failed between origin error reason going =>
    cases origin with
    | start => exact ⟨nofun, fun halted => absurd halted going⟩
    | supervisor => exact ⟨nofun, fun halted => absurd halted going⟩

theorem run_isRegistered {name : String} (built : initial.listener = .built name)
    (numbered : initial.store.subscriptions.IsNumbered)
    (run : initial.run follow moves = some reached) :
    reached.listener.IsRegistered initial.store.subscriptions reached.store.subscriptions := by
  refine run_history (fun _ deployment => deployment.listener.IsRegistered
    initial.store.subscriptions deployment.store.subscriptions) ?_ ?_ run
  · rw [built]
    exact (rfl : initial.store.subscriptions = initial.store.subscriptions)
  · intro moves deployment move next earlier step held
    exact step.act.isRegistered numbered held

/-- `later` is what more moves have made of a listener that had ended.  It launches nothing, shows nothing new and
is told nothing, it cannot be started, and to stop it again does nothing and succeeds. -/
structure StaysEnded (ended later : Deployment Config Settings) : Prop where
  listener : later.listener = { ended.listener with reload := later.listener.reload }
  subscriptions : later.store.subscriptions = ended.store.subscriptions
  start : later.start = .error (.invalidState "start" .terminated)
  stop : later.askToStop = later
  stopResult : later.stopResult = some (.ok ())

theorem run_staysEnded (ended : initial.listener.stage = .ended)
    (terminated : initial.listener.state = .terminated)
    (told : initial.listener.completion.isOver = true)
    (run : initial.run follow moves = some reached) : initial.StaysEnded reached := by
  have fixed : reached.listener = { initial.listener with reload := reached.listener.reload } ∧
      reached.store.subscriptions = initial.store.subscriptions := by
    refine run_history (fun _ deployment =>
      deployment.listener = { initial.listener with reload := deployment.listener.reload } ∧
        deployment.store.subscriptions = initial.store.subscriptions) ⟨rfl, rfl⟩ ?_ run
    intro moves deployment move next earlier step held
    obtain ⟨listener, subscriptions⟩ := held
    have endedStill : deployment.listener.stage = .ended := by
      rw [listener]
      exact ended
    have toldStill : deployment.listener.completion.isOver = true := by
      rw [listener]
      exact told
    obtain ⟨_, same, reload, stopAsked, acted, asked⟩ := step.act.of_ended endedStill
    rw [Listener.isSupervised_of_isOver toldStill] at asked
    rw [acted, asked.resolve_right Bool.false_ne_true, listener]
    exact ⟨rfl, same.trans subscriptions⟩
  obtain ⟨listener, subscriptions⟩ := fixed
  have unsupervised : reached.listener.isSupervised = false := by
    rw [listener]
    exact Listener.isSupervised_of_isOver told
  refine ⟨listener, subscriptions, ?_, ?_, ?_⟩
  · have endedStill : reached.listener.stage = .ended := by
      rw [listener]
      exact ended
    have terminatedStill : reached.listener.state = .terminated := by
      rw [listener]
      exact terminated
    simp only [start, endedStill, terminatedStill]
  · simp only [askToStop, unsupervised, Bool.false_eq_true, if_false]
  · simp only [stopResult, unsupervised, Bool.false_eq_true, if_false]

/-- How a listener comes to its end.  Every failure is dealt with, and a request to stop is not forgotten.  When a
failure cannot be rolled back, and when the supervisor follows a request, at most seven steps are left to the listener,
and how it will end is fixed. -/
structure ComesToEnd (follow : Event Config → Settings → Settings)
    (initial : Deployment Config Settings) (moves : List (Move Config))
    (reached : Deployment Config Settings) : Prop where
  failing : ∀ {move next error}, move.failure? = some error → reached.move follow move = some next →
    ∃ origin, next.listener.stage = .failed origin error ∧
      decide (origin = .supervisor) = (lastOf Move.bound? moves).isSome
  unrecoverable : ∀ {origin error reason},
    reached.listener.stage = .failed origin error ∨ reached.listener.stage = .rollingBack origin error →
    (reached.store.backing.restore reached.store.slots reached.files).result = .error reason →
    ∃ own next left, (∀ move ∈ own, move = .release ∨ move = .proceed) ∧
      reached.run follow own = some next ∧ left ≤ 7 ∧
      next.EndsAfter follow left (origin.verdict error).completion
  requested : ∀ {earlier later between}, moves = earlier ++ .askToStop :: later →
    initial.run follow earlier = some between → between.listener.isSupervised = true →
    reached.listener.stopAsked = true
  asked : reached.listener.stage = .waiting → reached.listener.stopAsked = true →
    ∃ next left, reached.halt = some next ∧ left ≤ 7 ∧ next.EndsAfter follow left (.resolved (.ok ()))
  leaving : reached.listener.stage.isLeaving = true →
    ∃ completion left, initial.Ending follow moves completion ∧ left ≤ 7 ∧
      reached.EndsAfter follow left completion

theorem exists_failed {deployment next : Deployment Config Settings} {error : ListenerError}
    (awaited : deployment.listener.IsAwaited moves) (failure : move.failure? = some error)
    (moved : deployment.move follow move = some next) :
    ∃ origin, next.listener.stage = .failed origin error ∧
      decide (origin = .supervisor) = (lastOf Move.bound? moves).isSome := by
  rw [← awaited.started]
  cases step_of_move moved with
  | startFailed stage =>
    cases failure
    rw [stage]
    exact ⟨.start, rfl, rfl⟩
  | restartFailed stage | serverFailed stage =>
    cases failure
    rw [stage]
    exact ⟨.supervisor, rfl, rfl⟩
  | _ => cases failure

theorem exists_run_free (follow : Event Config → Settings → Settings)
    (deployment : Deployment Config Settings) :
    ∃ own free, (∀ move ∈ own, move = .release) ∧ deployment.run follow own = some free ∧
      free.store.isFree = true ∧ free.listener = deployment.listener ∧
      free.store.backing = deployment.store.backing ∧ free.store.slots = deployment.store.slots ∧
      free.files = deployment.files := by
  cases free : deployment.store.isFree with
  | true => exact ⟨[], deployment, nofun, rfl, free, rfl, rfl, rfl, rfl⟩
  | false =>
    let released : Deployment Config Settings :=
      ({ deployment with store := deployment.store.released }).tell deployment.store.withheld
    have moved : deployment.move follow .release = some released := by
      simp only [move, release, free, Bool.false_eq_true, if_false, released]
    refine ⟨[.release], released, by simp, run_cons moved [], rfl, rfl, rfl, rfl, rfl⟩

theorem proceed_of_refused {deployment : Deployment Config Settings} {origin : Origin}
    {error : ListenerError} {reason : ConfigError}
    (stage : deployment.listener.stage = .rollingBack origin error)
    (free : deployment.store.isFree = true)
    (refused : (deployment.store.backing.restore deployment.store.slots deployment.files).result =
      .error reason) :
    ∃ next, deployment.proceed = some next ∧
      next.listener.stage = .leaving .unsubscribing (origin.verdict error) := by
  refine ⟨_, by simp only [proceed, stage, free, if_true, refused]; rfl, rfl⟩

theorem exists_run_leaving (follow : Event Config → Settings → Settings)
    {deployment : Deployment Config Settings} {origin : Origin} {error : ListenerError}
    {reason : ConfigError}
    (stage : deployment.listener.stage = .failed origin error ∨
      deployment.listener.stage = .rollingBack origin error)
    (free : deployment.store.isFree = true)
    (refused : (deployment.store.backing.restore deployment.store.slots deployment.files).result =
      .error reason) :
    ∃ own next, (∀ move ∈ own, move = .proceed) ∧ deployment.run follow own = some next ∧
      next.listener.stage = .leaving .unsubscribing (origin.verdict error) := by
  rcases stage with stage | stage
  · cases way : deployment.store.slots.canRestore with
    | true =>
      let rolling : Deployment Config Settings :=
        { deployment with
          listener := { deployment.listener with stage := .rollingBack origin error } }
      have checked : deployment.move follow .proceed = some rolling := by
        simp only [move, proceed, stage, free, if_true, way, rolling]
      have stageNow : rolling.listener.stage = .rollingBack origin error := rfl
      obtain ⟨next, proceeded, leaving⟩ := proceed_of_refused stageNow free refused
      have moved : rolling.move follow .proceed = some next := proceeded
      refine ⟨[.proceed, .proceed], next, by simp, ?_, leaving⟩
      rw [run_cons checked]
      exact run_cons moved []
    | false =>
      let leaving : Deployment Config Settings :=
        { deployment with
          listener := { deployment.listener with
            stage := .leaving .unsubscribing (origin.verdict error) } }
      have moved : deployment.move follow .proceed = some leaving := by
        simp only [move, proceed, stage, free, if_true, way, Bool.false_eq_true, if_false, leaving]
      exact ⟨[.proceed], leaving, by simp, run_cons moved [], rfl⟩
  · obtain ⟨next, proceeded, leaving⟩ := proceed_of_refused stage free refused
    have moved : deployment.move follow .proceed = some next := proceeded
    exact ⟨[.proceed], next, by simp, run_cons moved [], leaving⟩

theorem exists_run_refused (follow : Event Config → Settings → Settings)
    {deployment : Deployment Config Settings} {origin : Origin} {error : ListenerError}
    {reason : ConfigError}
    (stage : deployment.listener.stage = .failed origin error ∨
      deployment.listener.stage = .rollingBack origin error)
    (refused : (deployment.store.backing.restore deployment.store.slots deployment.files).result =
      .error reason) :
    ∃ own next, (∀ move ∈ own, move = .release ∨ move = .proceed) ∧
      deployment.run follow own = some next ∧
      next.listener.stage = .leaving .unsubscribing (origin.verdict error) := by
  -- The store may be in use; then the events of its last operation are told first.
  obtain ⟨first, free, releases, freed, isFree, listener, backing, slots, files⟩ :=
    exists_run_free follow deployment
  rw [← backing, ← slots, ← files] at refused
  rw [← listener] at stage
  obtain ⟨rest, next, proceeds, proceeded, leaving⟩ := exists_run_leaving follow stage isFree refused
  refine ⟨first ++ rest, next, ?_, ?_, leaving⟩
  · intro move member
    exact (List.mem_append.mp member).imp (releases move) (proceeds move)
  · rw [run_append, freed]
    exact proceeded

theorem Step.stopAsked {deployment next : Deployment Config Settings}
    (step : Step follow deployment move next) (asked : deployment.listener.stopAsked = true) :
    next.listener.stopAsked = true := by
  cases step with
  | operate | enact | release | announce | tellListener | tellSettings | changeFiles | start | subscribe
  | rollBack | giveUp | restoreFailed | restored | startFailed | restartFailed | ignore | quit
  | serverFailed => exact asked
  | askToStop =>
    unfold Deployment.askToStop
    split
    · rfl
    · exact asked
  | read | started | restarted | replace | launch | close | closed =>
    exact (Listener.enter_stopAsked _ _).trans asked
  | relaunch =>
    simp only [Listener.closed, Listener.launchOf, Listener.enter_stopAsked]
    exact asked
  | leave => exact (Listener.leave_stopAsked _ _ _).trans asked
  | @resume origin =>
    cases origin with
    | start => exact asked
    | supervisor => exact (Listener.enter_stopAsked _ _).trans asked

theorem run_stopAsked {earlier later : List (Move Config)} {between : Deployment Config Settings}
    (run : initial.run follow (earlier ++ .askToStop :: later) = some reached)
    (runEarlier : initial.run follow earlier = some between)
    (supervised : between.listener.isSupervised = true) : reached.listener.stopAsked = true := by
  rw [run_append, runEarlier, Option.bind_some,
    run_cons (rfl : between.move follow .askToStop = some between.askToStop)] at run
  have asked : between.askToStop.listener.stopAsked = true := by
    simp only [Deployment.askToStop, supervised, if_true]
  exact run_induction (fun step asked => step.stopAsked asked) run asked

theorem run_comesToEnd {name : String} (built : initial.listener = .built name)
    (run : initial.run follow moves = some reached) : initial.ComesToEnd follow moves reached := by
  have understood := run_isUnderstood built run
  have few {own : List (Move Config)} {next : Deployment Config Settings}
      (further : reached.run follow own = some next) : next.listener.subscriptions.length ≤ 2 := by
    have whole : initial.run follow (moves ++ own) = some next := by
      rw [run_append, run]
      exact further
    exact run_subscriptions_le built whole
  refine ⟨?_, ?_, ?_, ?_, ?_⟩
  · intro move next error failure moved
    have running : reached.listener.stage ≠ .ended := by
      intro ended
      have same := (step_of_move moved).act.of_ended ended
      rw [Move.failure?_of_isOutside same.1] at failure
      cases failure
    exact exists_failed (understood.awaited running) failure moved
  · intro origin error reason stage refused
    obtain ⟨own, next, alone, further, leaving⟩ := exists_run_refused follow stage refused
    have certain : next.listener.IsLeaving (origin.verdict error) _ := .unsubscribing leaving
    exact ⟨own, next, _, alone, further, certain.left_le (few further),
      endsAfter_of_isLeaving follow certain⟩
  · intro earlier later between moves runEarlier supervised
    rw [moves] at run
    exact run_stopAsked run runEarlier supervised
  · intro waiting asked
    obtain ⟨next, left, halted, certain⟩ := exists_halt waiting asked
    have moved : reached.move follow .halt = some next := halted
    exact ⟨next, left, halted, certain.left_le (few (run_cons moved [])),
      endsAfter_of_isLeaving follow certain⟩
  · intro leaving
    obtain ⟨verdict, left, certain, ending⟩ := understood.ending leaving
    exact ⟨verdict.completion, left, ending, certain.left_le (run_subscriptions_le built run),
      endsAfter_of_isLeaving follow certain⟩

/-- Whoever started a listener is told of its end at its last step and not before: that all is well, just if the
supervisor has followed a request to stop, and otherwise of the failure that could not be rolled back.  By then
nothing is shown of the listener but that it has ended, no server is up and the registry is what it was before the
start, and all this stays so whatever happens afterwards.  A listener that cannot go on, or that is asked to stop, does
come to its end. -/
theorem listener_ends_once_and_for_all (follow : Event Config → Settings → Settings)
    (initial reached : Deployment Config Settings) (moves : List (Move Config)) (name : String)
    (built : initial.listener = .built name) (numbered : initial.store.subscriptions.IsNumbered)
    (run : initial.run follow moves = some reached) :
    (reached.listener.completion.isOver = true ↔ reached.listener.stage = .ended) ∧
      (reached.listener.stage = .ended →
        initial.Ending follow moves reached.listener.completion ∧
        (reached.listener.completion = .resolved (.ok ()) ↔ .halt ∈ moves) ∧
        reached.listener.Shows .terminated none ∧
        initial.serversUp follow moves = 0 ∧
        reached.store.subscriptions =
          { initial.store.subscriptions with nextId := initial.store.subscriptions.nextId + 2 } ∧
        ∀ later final, reached.run follow later = some final → reached.StaysEnded final) ∧
      initial.ComesToEnd follow moves reached := by
  have understood := run_isUnderstood built run
  have coherent := run_isCoherent built run
  have registered := run_isRegistered built numbered run
  have ending (ended : reached.listener.stage = .ended) :
      initial.Ending follow moves reached.listener.completion := by
    have leaving : reached.listener.stage.isLeaving = true := by
      rw [ended]
      rfl
    obtain ⟨verdict, left, certain, ending⟩ := understood.ending leaving
    rw [certain.completion ended]
    exact ending
  refine ⟨⟨?_, fun ended => (ending ended).isOver⟩, ?_, run_comesToEnd built run⟩
  · intro told
    by_contra running
    have completion := (understood.awaited running).completion
    rw [completion] at told
    split at told
    · cases told
    · cases told
  · intro ended
    simp only [Listener.IsCoherent, ended] at coherent
    simp only [Listener.IsRegistered, ended] at registered
    refine ⟨ending ended, (ending ended).stopped_iff, coherent, ?_, registered, ?_⟩
    · rw [run_serversUp built run, coherent.2.1]
      rfl
    · intro later final further
      exact run_staysEnded ended coherent.1 (ending ended).isOver further

/-- One listener is asked to stop while a change is told, which reaches it after its end; the change is undone then.
The server of another fails, and nothing can be brought back. -/
theorem listener_ends_once_and_for_all_at_stop_and_at_failure :
    let others : Subscriptions Bytes Follower := ⟨3, [], [], [(1, .settings)], [(2, .settings)]⟩
    let initial : Deployment Bytes Unit :=
      ⟨⟨⟨⟨.ok, .ok⟩, ⟨"a"⟩⟩, .initial [49], others, []⟩, .fresh [], .built "main", (), [], [], []⟩
    let address : SocketAddress := ⟨.v4 [127, 0, 0, 1], 8000⟩
    let serving : List (Move Bytes) := [.start, .proceed, .proceed, .launched (.ok address)]
    let stopping : List (Move Bytes) :=
      serving ++ [.operate (.set [50]), .askToStop, .halt] ++ List.replicate 7 .proceed
    let later : List (Move Bytes) := [.deliver 1, .operate .restore, .announce 0, .askToStop]
    let failure : ListenerError := .addressNotConfigured "main"
    others.IsNumbered ∧
      (∃ reached final, initial.run (fun _ settings => settings) stopping = some reached ∧
        reached.run (fun _ settings => settings) later = some final ∧
        reached.listener.completion = .resolved (.ok ()) ∧
        reached.store.subscriptions = { others with nextId := 5 } ∧
        final.store.slots.version = 2 ∧ reached.StaysEnded final) ∧
      ∃ own final, initial.run (fun _ settings => settings) (serving ++ .serverFailed failure :: own) =
          some final ∧
        final.listener.completion = .resolved (.error failure) ∧ final.listener.Shows .terminated none ∧
        final.store.subscriptions = { others with nextId := 5 } := by
  intro others initial address serving stopping later failure
  let empty : Subscriptions Bytes Follower := .empty
  have subscribed : ((empty.onModified .settings).2.onRestored .settings).2.IsBuilt :=
    .onRestored (.onModified .empty _) _
  have numbered : others.IsNumbered := subscribed.isNumbered
  refine ⟨numbered, ?_, ?_⟩
  · have facts : (initial.run (fun _ settings => settings) stopping).map (fun reached =>
        (reached.listener.completion.isOver,
          (reached.run (fun _ settings => settings) later).map fun final => final.store.slots.version)) =
        some (true, some 2) := by
      decide +kernel
    obtain ⟨reached, run, facts⟩ := Option.map_eq_some_iff.mp facts
    simp only [Prod.mk.injEq] at facts
    obtain ⟨told, facts⟩ := facts
    obtain ⟨final, further, version⟩ := Option.map_eq_some_iff.mp facts
    obtain ⟨once, ends, _⟩ :=
      listener_ends_once_and_for_all _ initial reached stopping "main" rfl numbered run
    obtain ⟨_, stopped, _, _, registry, stays⟩ := ends (once.mp told)
    refine ⟨reached, final, run, further, ?_, registry, version, stays later final further⟩
    exact stopped.mpr (by simp [stopping])
  · have facts : (initial.run (fun _ settings => settings) (serving ++ [.serverFailed failure])).isSome :=
      rfl
    obtain ⟨failed, run⟩ := Option.isSome_iff_exists.mp facts
    have stage : failed.listener.stage = .failed .supervisor failure := by
      cases run
      rfl
    have refused : (failed.store.backing.restore failed.store.slots failed.files).result =
        .error .restoreUnavailable := by
      cases run
      rfl
    obtain ⟨_, _, comes⟩ := listener_ends_once_and_for_all _ initial failed _ "main" rfl numbered run
    obtain ⟨own, next, left, _, further, _, ends⟩ := comes.unrecoverable (.inl stage) refused
    obtain ⟨final, rest, ended, told⟩ := ends.exists_run
    have whole : initial.run (fun _ settings => settings)
        (serving ++ .serverFailed failure :: (own ++ List.replicate left .proceed)) = some final := by
      rw [← List.singleton_append, ← List.append_assoc, run_append, run, Option.bind_some, run_append,
        further]
      exact rest
    obtain ⟨_, atEnd, _⟩ := listener_ends_once_and_for_all _ initial final _ "main" rfl numbered whole
    obtain ⟨_, _, shows, _, registry, _⟩ := atEnd ended
    exact ⟨_, final, whole, told, shows, registry⟩

end Deployment

end LiveService
