import Mathlib.Data.List.Induction
import LiveService.Proofs.Net.Progress
import LiveService.Proofs.Store.Registry

/-!
What the moves of a run do to the store and to the listener.  Facts about a listener are proved by these cases,
and about a whole run with the moves that led there.
-/

namespace LiveService

variable {Config : Type}

def Slots.Advances (before after : Slots Config) : Prop :=
  after.version = before.version ∧ after.current = before.current ∨ before.version < after.version

namespace Slots.Advances

variable {before between after : Slots Config}

theorem refl (slots : Slots Config) : slots.Advances slots :=
  .inl ⟨rfl, rfl⟩

theorem version_le (advances : before.Advances after) : before.version ≤ after.version := by
  rcases advances with ⟨version, _⟩ | newer
  · exact Nat.le_of_eq version.symm
  · exact Nat.le_of_lt newer

theorem current_eq (advances : before.Advances after) (version : after.version = before.version) :
    after.current = before.current := by
  rcases advances with ⟨_, current⟩ | newer
  · exact current
  · omega

theorem trans (advances : before.Advances between) (further : between.Advances after) :
    before.Advances after := by
  rcases advances with ⟨version, current⟩ | newer
  · rcases further with ⟨lastVersion, lastCurrent⟩ | lastNewer
    · exact .inl ⟨lastVersion.trans version, lastCurrent.trans current⟩
    · exact .inr (version ▸ lastNewer)
  · exact .inr (Nat.lt_of_lt_of_le newer further.version_le)

end Slots.Advances

theorem Effect.advances {slots : Slots Config} {outcome : Outcome Config}
    (effect : Effect slots outcome) : slots.Advances outcome.slots := by
  cases effect with
  | kept version current => exact .inl ⟨version, current⟩
  | committed _ version => exact .inr (by omega)
  | restored _ version => exact .inr (by omega)

theorem Backing.restore_advances {backing : Backing Config} {slots : Slots Config} {files : FileSystem}
    (done : (backing.restore slots files).result = .ok .done) :
    slots.version < (backing.restore slots files).slots.version := by
  unfold restore at done ⊢
  cases former : slots.previous with
  | none => simp [former, Outcome.quiet] at done
  | some value =>
    simp only [former] at done ⊢
    rcases saved : backing.persist slots files value with ⟨written, error | after⟩
    · simp [saved, Outcome.quiet] at done
    · have same := persist_slots saved
      subst same
      simp [Slots.rollBack]

theorem Backing.restore_of_noWay {backing : Backing Config} {slots : Slots Config} {files : FileSystem}
    (noWay : slots.canRestore = false) :
    (backing.restore slots files).result = .error .restoreUnavailable := by
  have nothing : slots.previous = none := by
    simpa [Slots.canRestore] using noWay
  simp [restore, nothing, Outcome.quiet]

def Move.isOutside : Move Config → Bool
  | .operate _ => true
  | .enact _ => true
  | .release => true
  | .announce _ => true
  | .deliver _ => true
  | .changeFiles _ => true
  | .askToStop => true
  | _ => false

def Move.bound? : Move Config → Option SocketAddress
  | .launched (.ok address) => some address
  | _ => none

def Move.failure? : Move Config → Option ListenerError
  | .launched (.error error) => some error
  | .serverFailed error => some error
  | _ => none

def lastOf {Thing : Type} (kind : Move Config → Option Thing) (moves : List (Move Config)) :
    Option Thing :=
  moves.reverse.findSome? kind

theorem lastOf_concat {Thing : Type} (kind : Move Config → Option Thing) (moves : List (Move Config))
    (move : Move Config) : lastOf kind (moves ++ [move]) = (kind move).or (lastOf kind moves) := by
  simp only [lastOf, List.reverse_append, List.reverse_cons, List.reverse_nil, List.nil_append,
    List.singleton_append, List.findSome?_cons]
  cases kind move with
  | none => rfl
  | some thing => rfl

theorem Move.bound?_of_isOutside {move : Move Config} (outside : move.isOutside = true) :
    move.bound? = none := by
  cases move with
  | launched result => cases outside
  | _ => rfl

theorem Move.failure?_of_isOutside {move : Move Config} (outside : move.isOutside = true) :
    move.failure? = none := by
  cases move with
  | launched result => cases outside
  | serverFailed error => cases outside
  | _ => rfl

def Origin.served (completion : Completion) : Origin → Completion
  | .start => .pending
  | .supervisor => completion

namespace Deployment

variable {Settings : Type}

/-- What a move makes of the store and of the listener. -/
inductive Act (deployment : Deployment Config Settings) :
    Move Config → ConfigStore Config Follower → Listener Config → Prop where
  | outside {move : Move Config} {slots : Slots Config} {withheld : List (Event Config)}
      {reload stopAsked : Bool} (outside : move.isOutside = true)
      (later : deployment.store.slots.Advances slots)
      (asked : stopAsked = deployment.listener.stopAsked ∨
        move = .askToStop ∧ deployment.listener.isSupervised = true) :
      Act deployment move { deployment.store with slots := slots, withheld := withheld }
        { deployment.listener with reload := reload, stopAsked := stopAsked }
  | start (stage : deployment.listener.stage = .fresh) :
      Act deployment .start
        { deployment.store with
          subscriptions := (deployment.store.subscriptions.onModified .listener).2 }
        { deployment.listener with
          stage := .subscribing (deployment.store.subscriptions.onModified .listener).1 }
  | subscribe {modified : Nat} (stage : deployment.listener.stage = .subscribing modified) :
      Act deployment .proceed
        { deployment.store with
          subscriptions := (deployment.store.subscriptions.onRestored .listener).2 }
        { deployment.listener with
          stage := .reading
          subscriptions := [modified, (deployment.store.subscriptions.onRestored .listener).1] }
  | read (stage : deployment.listener.stage = .reading) :
      Act deployment .proceed deployment.store
        (deployment.listener.launchOf .start deployment.store.slots.version
          deployment.store.slots.current)
  | rollBack {origin : Origin} {error : ListenerError}
      (stage : deployment.listener.stage = .failed origin error) :
      Act deployment .proceed deployment.store
        { deployment.listener with stage := .rollingBack origin error }
  | giveUp {origin : Origin} {error : ListenerError} {reason : ConfigError}
      (stage : deployment.listener.stage = .failed origin error ∨
        deployment.listener.stage = .rollingBack origin error)
      (refused : (deployment.store.backing.restore deployment.store.slots
        deployment.files).result = .error reason) :
      Act deployment .proceed deployment.store
        { deployment.listener with stage := .leaving .unsubscribing (origin.verdict error) }
  | restored {origin : Origin} {error : ListenerError} {event : Event Config} {slots : Slots Config}
      (stage : deployment.listener.stage = .rollingBack origin error)
      (newer : deployment.store.slots.version < slots.version) :
      Act deployment .proceed { deployment.store with slots := slots }
        { deployment.listener with stage := .announcing origin event }
  | resume {origin : Origin} {event : Event Config}
      (stage : deployment.listener.stage = .announcing origin event) :
      Act deployment .proceed deployment.store (deployment.listener.resume origin)
  | relaunch {version : Nat} {config : Config}
      (stage : deployment.listener.stage = .closing (some (version, config))) :
      Act deployment .proceed deployment.store (deployment.listener.closed (some (version, config)))
  | closed (stage : deployment.listener.stage = .closing none) :
      Act deployment .proceed deployment.store (deployment.listener.closed none)
  | leave {farewell : Farewell} {verdict : Verdict}
      (stage : deployment.listener.stage = .leaving farewell verdict) :
      Act deployment .proceed (deployment.leave verdict farewell).store
        (deployment.listener.leave verdict farewell)
  | served {origin : Origin} {version : Nat} {config : Config} {address : SocketAddress}
      (stage : deployment.listener.stage = .launching origin version config) :
      Act deployment (.launched (.ok address)) deployment.store
        { deployment.listener.serve version config address with
          completion := origin.served deployment.listener.completion }
  | notServed {origin : Origin} {version : Nat} {config : Config} {error : ListenerError}
      (stage : deployment.listener.stage = .launching origin version config) :
      Act deployment (.launched (.error error)) deployment.store
        { deployment.listener with stage := .failed origin error }
  | ignore {server : Server Config} (stage : deployment.listener.stage = .waiting)
      (serving : deployment.listener.server = some server) :
      Act deployment .wake deployment.store { deployment.listener with reload := false }
  | replace {server : Server Config} (stage : deployment.listener.stage = .waiting)
      (serving : deployment.listener.server = some server)
      (different : deployment.store.slots.version ≠ deployment.listener.version) :
      Act deployment .wake deployment.store
        (({ deployment.listener with reload := false }).close
          (some (deployment.store.slots.version, deployment.store.slots.current)))
  | launch (stage : deployment.listener.stage = .waiting)
      (down : deployment.listener.server = none) :
      Act deployment .wake deployment.store
        (({ deployment.listener with reload := false }).launchOf .supervisor
          deployment.store.slots.version deployment.store.slots.current)
  | close {server : Server Config} (stage : deployment.listener.stage = .waiting)
      (asked : deployment.listener.stopAsked = true)
      (serving : deployment.listener.server = some server) :
      Act deployment .halt deployment.store (deployment.listener.close none)
  | quit (stage : deployment.listener.stage = .waiting)
      (asked : deployment.listener.stopAsked = true) (down : deployment.listener.server = none) :
      Act deployment .halt deployment.store
        { deployment.listener with stage := .leaving .unsubscribing (.resolved (.ok ())) }
  | serverFailed {server : Server Config} {error : ListenerError}
      (stage : deployment.listener.stage = .waiting)
      (serving : deployment.listener.server = some server) :
      Act deployment (.serverFailed error) deployment.store
        { deployment.listener with
          server := none
          address := none
          stage := .failed .supervisor error }

theorem leave_slots (deployment : Deployment Config Settings) (verdict : Verdict) (farewell : Farewell) :
    (deployment.leave verdict farewell).store.slots = deployment.store.slots := by
  obtain ⟨subscriptions, left⟩ := deployment.leave_eq verdict farewell
  rw [left]

theorem leave_count_le (deployment : Deployment Config Settings) (verdict : Verdict) (farewell : Farewell) :
    (deployment.leave verdict farewell).store.subscriptions.count ≤ deployment.store.subscriptions.count := by
  unfold leave
  dsimp only
  split
  · exact Subscriptions.count_unsubscribe_le _ _
  · exact Nat.le_refl _

theorem Act.advances {deployment : Deployment Config Settings} {move : Move Config}
    {store : ConfigStore Config Follower} {listener : Listener Config}
    (act : deployment.Act move store listener) : deployment.store.slots.Advances store.slots := by
  cases act with
  | outside _ later _ => exact later
  | restored _ newer => exact .inr newer
  | leave =>
    rw [leave_slots]
    exact .refl _
  | start | subscribe | read | rollBack | giveUp | resume | relaunch | closed | served | notServed
  | ignore | replace | launch | close | quit | serverFailed => exact .refl _

theorem Act.of_ended {deployment : Deployment Config Settings} {move : Move Config}
    {store : ConfigStore Config Follower} {listener : Listener Config}
    (act : deployment.Act move store listener) (ended : deployment.listener.stage = .ended) :
    move.isOutside = true ∧ store.subscriptions = deployment.store.subscriptions ∧
      ∃ reload stopAsked,
        listener = { deployment.listener with reload := reload, stopAsked := stopAsked } ∧
          (stopAsked = deployment.listener.stopAsked ∨ deployment.listener.isSupervised = true) := by
  cases act with
  | outside outside later asked => exact ⟨outside, rfl, _, _, rfl, asked.imp_right And.right⟩
  | giveUp stage refused =>
    rcases stage with stage | stage
    · cases ended.symm.trans stage
    · cases ended.symm.trans stage
  | start stage | subscribe stage | read stage | rollBack stage | restored stage | resume stage
  | relaunch stage | closed stage | leave stage | served stage | notServed stage | ignore stage
  | replace stage | launch stage | close stage | quit stage | serverFailed stage =>
    cases ended.symm.trans stage

theorem Act.ended {deployment : Deployment Config Settings} {move : Move Config}
    {store : ConfigStore Config Follower} {listener : Listener Config}
    (act : deployment.Act move store listener) (ended : deployment.listener.stage = .ended) :
    listener.stage = .ended := by
  obtain ⟨_, _, _, _, rfl, _⟩ := act.of_ended ended
  exact ended

variable [BEq Config] {follow : Event Config → Settings → Settings}
  {initial deployment next reached : Deployment Config Settings} {move : Move Config}
  {moves : List (Move Config)}

theorem Step.act (step : Step follow deployment move next) :
    deployment.Act move next.store next.listener := by
  cases step with
  | operate command free =>
    exact .outside rfl (deployment.store.backing.perform_effect _ _ command).advances (.inl rfl)
  | enact command free =>
    exact .outside rfl (deployment.store.backing.perform_effect _ _ command).advances (.inl rfl)
  | release => exact .outside rfl (.refl _) (.inl rfl)
  | announce found => exact .outside rfl (.refl _) (.inl rfl)
  | tellListener found => exact .outside rfl (.refl _) (.inl rfl)
  | tellSettings found => exact .outside rfl (.refl _) (.inl rfl)
  | changeFiles files => exact .outside rfl (.refl _) (.inl rfl)
  | askToStop =>
    unfold Deployment.askToStop
    split
    · rename_i supervised
      exact .outside rfl (.refl _) (.inr ⟨rfl, supervised⟩)
    · exact .outside rfl (.refl _) (.inl rfl)
  | start stage => exact .start stage
  | subscribe stage => exact .subscribe stage
  | read stage => exact .read stage
  | rollBack stage free way => exact .rollBack stage
  | giveUp stage free noWay => exact .giveUp (.inl stage) (Backing.restore_of_noWay noWay)
  | restoreFailed stage free failed => exact .giveUp (.inr stage) failed
  | restored stage free done late change => exact .restored stage (Backing.restore_advances done)
  | resume stage => exact .resume stage
  | relaunch stage => exact .relaunch stage
  | closed stage => exact .closed stage
  | leave stage => exact .leave stage
  | started stage => exact .served stage
  | startFailed stage => exact .notServed stage
  | @restarted version config address stage =>
    let served := deployment.listener.serve version config address
    have same : deployment.listener.completion = served.completion :=
      (Listener.enter_completion _ _).symm
    have acted : deployment.Act (.launched (.ok address)) deployment.store
        { served with completion := deployment.listener.completion } :=
      .served stage
    rw [same] at acted
    exact acted
  | restartFailed stage => exact .notServed stage
  | ignore stage reload serving same => exact .ignore stage serving
  | replace stage reload serving different => exact .replace stage serving different
  | launch stage reload down => exact .launch stage down
  | close stage asked serving => exact .close stage asked serving
  | quit stage asked down => exact .quit stage asked down
  | serverFailed stage serving => exact .serverFailed stage serving

theorem run_append (earlier later : List (Move Config)) :
    initial.run follow (earlier ++ later) =
      (initial.run follow earlier).bind (Deployment.run follow · later) :=
  List.foldlM_append

theorem run_concat (run : initial.run follow (moves ++ [move]) = some reached) :
    ∃ between, initial.run follow moves = some between ∧ Step follow between move reached := by
  rw [run_append] at run
  obtain ⟨between, earlier, last⟩ := Option.bind_eq_some_iff.mp run
  obtain ⟨next, moved, rest⟩ := Option.bind_eq_some_iff.mp last
  cases Option.some.inj rest
  exact ⟨between, earlier, step_of_move moved⟩

def seen {Thing : Type} (look : Deployment Config Settings → Move Config → List Thing)
    (follow : Event Config → Settings → Settings) :
    Deployment Config Settings → List (Move Config) → List Thing
  | _, [] => []
  | deployment, move :: rest =>
    look deployment move ++
      match deployment.move follow move with
      | none => []
      | some next => seen look follow next rest

theorem seen_concat {Thing : Type} {look : Deployment Config Settings → Move Config → List Thing}
    (run : initial.run follow moves = some reached) (move : Move Config) :
    initial.seen look follow (moves ++ [move]) = initial.seen look follow moves ++ look reached move := by
  induction moves generalizing initial with
  | nil =>
    cases Option.some.inj run
    simp only [List.nil_append, seen]
    cases reached.move follow move with
    | none => simp only [List.append_nil]
    | some next => simp only [List.append_nil]
  | cons first rest ih =>
    obtain ⟨next, moved, run⟩ := Option.bind_eq_some_iff.mp run
    simp only [List.cons_append, seen, moved]
    rw [ih run, List.append_assoc]

/-- What holds before the first move, and what every step keeps, holds after every run; the moves that led
there may have a part in it. -/
theorem run_history (holds : List (Move Config) → Deployment Config Settings → Prop)
    (first : holds [] initial)
    (step : ∀ {moves deployment move next}, initial.run follow moves = some deployment →
      Step follow deployment move next → holds moves deployment → holds (moves ++ [move]) next)
    (run : initial.run follow moves = some reached) : holds moves reached := by
  induction moves using List.reverseRecOn generalizing reached with
  | nil =>
    cases Option.some.inj run
    exact first
  | append_singleton earlier move ih =>
    obtain ⟨between, runEarlier, last⟩ := run_concat run
    exact step runEarlier last (ih runEarlier)

theorem run_advances (run : initial.run follow moves = some reached) :
    initial.store.slots.Advances reached.store.slots :=
  run_induction (fun step (held : initial.store.slots.Advances _) => held.trans step.act.advances) run
    (.refl _)

def ComesBy (follow : Event Config → Settings → Settings) (initial : Deployment Config Settings)
    (moves : List (Move Config)) (between : Deployment Config Settings) : Prop :=
  ∃ earlier, earlier <+: moves ∧ initial.run follow earlier = some between

theorem ComesBy.last (run : initial.run follow moves = some reached) :
    initial.ComesBy follow moves reached :=
  ⟨moves, List.prefix_rfl, run⟩

theorem ComesBy.concat {between : Deployment Config Settings}
    (comesBy : initial.ComesBy follow moves between) (move : Move Config) :
    initial.ComesBy follow (moves ++ [move]) between := by
  obtain ⟨earlier, before, run⟩ := comesBy
  exact ⟨earlier, before.trans (List.prefix_append moves [move]), run⟩

theorem ComesBy.run {between : Deployment Config Settings}
    (comesBy : initial.ComesBy follow moves between) (run : initial.run follow moves = some reached) :
    ∃ later, between.run follow later = some reached := by
  obtain ⟨earlier, ⟨later, rfl⟩, runEarlier⟩ := comesBy
  rw [run_append, runEarlier] at run
  exact ⟨later, run⟩

theorem ComesBy.current_eq {one other : Deployment Config Settings}
    (comesBy : initial.ComesBy follow moves one) (comesByOther : initial.ComesBy follow moves other)
    (version : one.store.slots.version = other.store.slots.version) :
    one.store.slots.current = other.store.slots.current := by
  obtain ⟨earlier, before, run⟩ := comesBy
  obtain ⟨earlierOther, beforeOther, runOther⟩ := comesByOther
  -- One of the two comes first, and from there versions only go up.
  rcases List.prefix_or_prefix_of_prefix before beforeOther with within | within
  · obtain ⟨later, further⟩ := ComesBy.run ⟨earlier, within, run⟩ runOther
    exact ((run_advances further).current_eq version.symm).symm
  · obtain ⟨later, further⟩ := ComesBy.run ⟨earlierOther, within, runOther⟩ run
    exact (run_advances further).current_eq version

end Deployment

end LiveService
