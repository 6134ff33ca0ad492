import LiveService.Proofs.Net.Ending

/-!
How the first start of a listener ends.  It launches the value in effect.  If that fails, it brings back the
value that the last commit displaced and launches that; nothing is displaced any more then, so that a second
failure stands.  Each phase of a start follows from the one before, however others deliver and announce what
is left to tell in between.
-/

namespace LiveService

variable {Config Settings : Type}

def Move.isOperation : Move Config → Bool
  | .operate _ => true
  | .enact _ => true
  | _ => false

def Move.launchResult? : Move Config → Option (Except ListenerError SocketAddress)
  | .launched result => some result
  | _ => none

def launchResults (moves : List (Move Config)) : List (Except ListenerError SocketAddress) :=
  moves.filterMap Move.launchResult?

def Move.isNeeded : Move Config → Bool
  | .release => true
  | .proceed => true
  | .launched _ => true
  | _ => false

def FilesKept (moves : List (Move Config)) (before after : FileSystem) : Prop :=
  after = before ∨ .changeFiles after ∈ moves

def Stage.proceeds : Stage Config → Bool
  | .fresh => false
  | .launching _ _ _ => false
  | .waiting => false
  | .ended => false
  | _ => true

structure Listener.IsRefused (listener : Listener Config) (error : ListenerError) : Prop where
  stage : listener.stage = .ended
  state : listener.state = .terminated
  server : listener.server = none
  address : listener.address = none
  completion : listener.completion = .refused error

theorem launchResults_concat (moves : List (Move Config)) (move : Move Config) :
    launchResults (moves ++ [move]) = launchResults moves ++ move.launchResult?.toList := by
  unfold launchResults
  rw [List.filterMap_append]
  cases result : move.launchResult? with
  | none => simp [result]
  | some result => simp [result]

theorem Move.launchResult?_of_isOutside {move : Move Config} (outside : move.isOutside = true) :
    move.launchResult? = none := by
  cases move with
  | launched result => cases outside
  | _ => rfl

namespace Deployment

variable {deployment next : Deployment Config Settings}

theorem eq_of_start_served {version : Nat} {config : Config} {address : SocketAddress}
    (launched : deployment.launched (.ok address) = some next)
    (stage : deployment.listener.stage = .launching .start version config) :
    next = { deployment with
      listener :=
        { deployment.listener.serve version config address with completion := .pending } } := by
  simp only [Deployment.launched, stage, Option.some.injEq] at launched
  exact launched.symm

theorem eq_of_start_failed {version : Nat} {config : Config} {error : ListenerError}
    (launched : deployment.launched (.error error) = some next)
    (stage : deployment.listener.stage = .launching .start version config) :
    next = { deployment with listener := { deployment.listener with stage := .failed .start error } } := by
  simp only [Deployment.launched, stage, Option.some.injEq] at launched
  exact launched.symm

theorem launched_eq_none (result : Except ListenerError SocketAddress)
    (proceeds : deployment.listener.stage.proceeds = true) : deployment.launched result = none := by
  unfold Deployment.launched
  dsimp only
  split
  · rename_i stage
    simp [stage, Stage.proceeds] at proceeds
  · rfl

theorem Act.unstarted {move : Move Config} {store : ConfigStore Config Follower} {listener : Listener Config}
    (act : deployment.Act move store listener) (unstarted : listener.completion = .unstarted) :
    deployment.listener.completion = .unstarted := by
  cases act with
  | outside | ignore | start | subscribe | rollBack | giveUp | restored | notServed | quit
  | serverFailed => exact unstarted
  | closed => exact (Listener.enter_completion _ _).symm.trans unstarted
  | read | launch | relaunch =>
    simpa only [Listener.closed, Listener.launchOf, Listener.enter_completion] using unstarted
  | replace | close => simpa only [Listener.close, Listener.enter_completion] using unstarted
  | @resume origin =>
    cases origin with
    | start => exact unstarted
    | supervisor => exact (Listener.enter_completion _ _).symm.trans unstarted
  | @served origin =>
    cases origin with
    | start => cases unstarted
    | supervisor => exact unstarted
  | @leave farewell verdict stage =>
    rcases Listener.leave_cases stage with ⟨_, same⟩ | ⟨_, told⟩
    · exact same.symm.trans unstarted
    · rw [told] at unstarted
      cases verdict <;> cases unstarted

structure Spares (deployment : Deployment Config Settings) (move : Move Config)
    (next : Deployment Config Settings) : Prop where
  backing : next.store.backing = deployment.store.backing
  slots : next.store.slots = deployment.store.slots
  files : next.files = deployment.files ∨ move = .changeFiles next.files

structure Stays (deployment : Deployment Config Settings) (move : Move Config)
    (next : Deployment Config Settings) : Prop extends Spares deployment move next where
  stage : next.listener.stage = deployment.listener.stage
  state : next.listener.state = deployment.listener.state
  subscriptions : next.listener.subscriptions = deployment.listener.subscriptions
  completion : next.listener.completion = deployment.listener.completion
  launches : next.listener.launches = deployment.listener.launches

theorem Stays.leaving {move : Move Config} {verdict : Verdict} {left : Nat}
    (stays : Stays deployment move next) (leaving : deployment.listener.IsLeaving verdict left) :
    next.listener.IsLeaving verdict left :=
  leaving.congr stays.stage stays.state stays.subscriptions stays.completion

def occupied (deployment : Deployment Config Settings) : Nat :=
  (!deployment.store.isFree).toNat

theorem occupied_eq (same : next.store.withheld = deployment.store.withheld) :
    next.occupied = deployment.occupied := by
  unfold occupied ConfigStore.isFree
  rw [same]

theorem leave_withheld (deployment : Deployment Config Settings) (verdict : Verdict) (farewell : Farewell) :
    (deployment.leave verdict farewell).store.withheld = deployment.store.withheld := by
  obtain ⟨subscriptions, left⟩ := deployment.leave_eq verdict farewell
  rw [left]

theorem spares_leave (deployment : Deployment Config Settings) (verdict : Verdict) (farewell : Farewell)
    (move : Move Config) : deployment.Spares move (deployment.leave verdict farewell) := by
  obtain ⟨subscriptions, left⟩ := deployment.leave_eq verdict farewell
  rw [left]
  exact ⟨rfl, rfl, .inl rfl⟩

variable [BEq Config] {follow : Event Config → Settings → Settings} {move : Move Config}

theorem eq_of_proceed_subscribing {modified : Nat} (proceeded : deployment.proceed = some next)
    (stage : deployment.listener.stage = .subscribing modified) :
    next = { deployment with
      store :=
        { deployment.store with
          subscriptions := (deployment.store.subscriptions.onRestored .listener).2 }
      listener :=
        { deployment.listener with
          stage := .reading
          subscriptions := [modified, (deployment.store.subscriptions.onRestored .listener).1] } } := by
  simp only [proceed, stage, Option.some.injEq] at proceeded
  exact proceeded.symm

theorem eq_of_proceed_reading (proceeded : deployment.proceed = some next)
    (stage : deployment.listener.stage = .reading) :
    next = { deployment with
      listener :=
        deployment.listener.launchOf .start deployment.store.slots.version
          deployment.store.slots.current } := by
  simp only [proceed, stage, Option.some.injEq] at proceeded
  exact proceeded.symm

theorem Step.stays (step : Step follow deployment move next) (outside : move.isOutside = true)
    (alone : move.isOperation = false) : deployment.Stays move next := by
  cases step with
  | operate | enact => cases alone
  | release | announce | tellListener | tellSettings =>
    exact ⟨⟨rfl, rfl, .inl rfl⟩, rfl, rfl, rfl, rfl, rfl⟩
  | changeFiles files => exact ⟨⟨rfl, rfl, .inr rfl⟩, rfl, rfl, rfl, rfl, rfl⟩
  | askToStop =>
    unfold Deployment.askToStop
    split
    · exact ⟨⟨rfl, rfl, .inl rfl⟩, rfl, rfl, rfl, rfl, rfl⟩
    · exact ⟨⟨rfl, rfl, .inl rfl⟩, rfl, rfl, rfl, rfl, rfl⟩
  | _ => cases outside

theorem Step.withheld (step : Step follow deployment move next) (alone : move.isOperation = false) :
    move = .release ∨ move ≠ .release ∧ next.store.withheld = deployment.store.withheld := by
  cases step with
  | operate | enact => cases alone
  | release => exact .inl rfl
  | askToStop =>
    refine .inr ⟨nofun, ?_⟩
    unfold Deployment.askToStop
    split
    · rfl
    · rfl
  | leave => exact .inr ⟨nofun, deployment.leave_withheld _ _⟩
  | _ => exact .inr ⟨nofun, rfl⟩

theorem occupied_le (moved : deployment.move follow move = some next)
    (alone : move.isOperation = false) :
    next.occupied + (if move.isNeeded then 1 else 0) ≤
      deployment.occupied + if move.isOutside then 0 else 1 := by
  rcases (step_of_move moved).withheld alone with rfl | ⟨others, same⟩
  · have busy : deployment.store.isFree = false := by
      cases free : deployment.store.isFree with
      | false => rfl
      | true => simp [Deployment.move, Deployment.release, free] at moved
    simp only [Deployment.move, Deployment.release, busy, Bool.false_eq_true, if_false] at moved
    cases moved
    unfold occupied
    rw [busy]
    exact Nat.le_refl 1
  · rw [occupied_eq same]
    cases move with
    | release => exact absurd rfl others
    | _ => simp [Move.isNeeded, Move.isOutside]

theorem own_cases (moved : deployment.move follow move = some next) (own : move.isOutside = false)
    (started : deployment.listener.stage ≠ .fresh)
    (notWaiting : deployment.listener.stage ≠ .waiting) :
    move = .proceed ∧ deployment.proceed = some next ∨
      ∃ result, move = .launched result ∧ deployment.launched result = some next := by
  have step := step_of_move moved
  cases step with
  | operate | enact | release | announce | tellListener | tellSettings | changeFiles | askToStop =>
    cases own
  | start stage => exact absurd stage started
  | ignore stage | replace stage | launch stage | close stage | quit stage | serverFailed stage =>
    exact absurd stage notWaiting
  | started | startFailed | restarted | restartFailed => exact .inr ⟨_, rfl, moved⟩
  | _ => exact .inl ⟨rfl, moved⟩

theorem own_of_launching {origin : Origin} {version : Nat} {config : Config}
    (moved : deployment.move follow move = some next) (own : move.isOutside = false)
    (stage : deployment.listener.stage = .launching origin version config) :
    ∃ result, move = .launched result ∧ deployment.launched result = some next := by
  rcases own_cases moved own (by simp [stage]) (by simp [stage]) with ⟨_, proceeded⟩ | launched
  · simp [proceed, stage] at proceeded
  · exact launched

theorem own_of_proceeds (moved : deployment.move follow move = some next)
    (own : move.isOutside = false) (proceeds : deployment.listener.stage.proceeds = true) :
    move = .proceed ∧ deployment.proceed = some next := by
  have started : deployment.listener.stage ≠ .fresh := by
    intro fresh
    simp [fresh, Stage.proceeds] at proceeds
  have notWaiting : deployment.listener.stage ≠ .waiting := by
    intro waiting
    simp [waiting, Stage.proceeds] at proceeds
  rcases own_cases moved own started notWaiting with proceeded | ⟨result, _, launched⟩
  · exact proceeded
  · rw [launched_eq_none result proceeds] at launched
    cases launched

end Deployment

theorem FilesKept.concat {moves : List (Move Config)} {before after : FileSystem}
    (kept : FilesKept moves before after) (move : Move Config) :
    FilesKept (moves ++ [move]) before after :=
  kept.imp_right (List.mem_append_left _)

theorem FilesKept.stay {deployment next : Deployment Config Settings} {moves : List (Move Config)}
    {before : FileSystem} {move : Move Config} (kept : FilesKept moves before deployment.files)
    (spares : deployment.Spares move next) : FilesKept (moves ++ [move]) before next.files := by
  rcases spares.files with same | rfl
  · rw [same]
    exact kept.concat move
  · exact .inr List.mem_concat_self

namespace FirstStart

structure Unchanged (initial : Deployment Config Settings) (moves : List (Move Config))
    (reached : Deployment Config Settings) : Prop where
  backing : reached.store.backing = initial.store.backing
  slots : reached.store.slots = initial.store.slots
  files : FilesKept moves initial.files reached.files

def saved (initial : Deployment Config Settings) (former : Config) (found : FileSystem) :
    FileSystem × Except ConfigError (Slots Config) :=
  initial.store.backing.persist initial.store.slots found former

structure RolledBack (initial : Deployment Config Settings) (moves : List (Move Config))
    (former : Config) (reached : Deployment Config Settings) : Prop where
  backing : reached.store.backing = initial.store.backing
  displaced : initial.store.slots.previous = some former
  version : reached.store.slots.version = initial.store.slots.version + 1
  current : reached.store.slots.current = former
  previous : reached.store.slots.previous = none
  written : ∃ found after content, FilesKept moves initial.files found ∧
    (saved initial former found).2 = .ok after ∧
    initial.store.backing.format.encode former = .ok content ∧
    (reached.files.Holds initial.store.backing.path content ∨ .changeFiles reached.files ∈ moves)

/-- The values are what they were when `start` was called, and there is no way back: there is nothing to bring back, or
it could not be written to the file, which is then as the attempt has left it. -/
structure NoWayBack (initial : Deployment Config Settings) (moves : List (Move Config))
    (reached : Deployment Config Settings) : Prop where
  backing : reached.store.backing = initial.store.backing
  slots : reached.store.slots = initial.store.slots
  files : initial.store.slots.previous = none ∧ FilesKept moves initial.files reached.files ∨
    ∃ former found reason, initial.store.slots.previous = some former ∧
      FilesKept moves initial.files found ∧ (saved initial former found).2 = .error reason ∧
      FilesKept moves (saved initial former found).1 reached.files

structure Tried (moves : List (Move Config)) (deployment : Deployment Config Settings)
    (launches : List (Nat × Config)) (results : List (Except ListenerError SocketAddress)) : Prop where
  launches : deployment.listener.launches = launches
  results : launchResults moves = results

def first (initial : Deployment Config Settings) : Nat × Config :=
  (initial.store.slots.version, initial.store.slots.current)

def second (initial : Deployment Config Settings) (former : Config) : Nat × Config :=
  (initial.store.slots.version + 1, former)

/-- How a start ends, with the moves since it was called. -/
inductive Ends (initial : Deployment Config Settings) (moves : List (Move Config))
    (reached : Deployment Config Settings) : Prop where
  | served {address : SocketAddress} (unchanged : Unchanged initial moves reached)
      (tried : Tried moves reached [first initial] [.ok address])
      (serving : reached.listener.IsServing
        ⟨initial.store.slots.version, initial.store.slots.current, address⟩)
  | servedFormer {former : Config} {error : ListenerError} {address : SocketAddress}
      (rolledBack : RolledBack initial moves former reached)
      (tried : Tried moves reached [second initial former, first initial] [.error error, .ok address])
      (serving : reached.listener.IsServing ⟨initial.store.slots.version + 1, former, address⟩)
  | refused {error : ListenerError} (noWayBack : NoWayBack initial moves reached)
      (tried : Tried moves reached [first initial] [.error error])
      (refused : reached.listener.IsRefused error)
  | refusedAgain {former : Config} {error again : ListenerError}
      (rolledBack : RolledBack initial moves former reached)
      (tried : Tried moves reached [second initial former, first initial] [.error error, .error again])
      (refused : reached.listener.IsRefused again)

/-- How far a start has got, by the number of steps that the listener has taken. -/
inductive Phase (initial : Deployment Config Settings) (moves : List (Move Config))
    (deployment : Deployment Config Settings) : Nat → Prop where
  | subscribing {modified : Nat} (unchanged : Unchanged initial moves deployment)
      (tried : Tried moves deployment [] [])
      (stage : deployment.listener.stage = .subscribing modified) : Phase initial moves deployment 0
  | reading (unchanged : Unchanged initial moves deployment) (tried : Tried moves deployment [] [])
      (stage : deployment.listener.stage = .reading) : Phase initial moves deployment 1
  | launching (unchanged : Unchanged initial moves deployment)
      (tried : Tried moves deployment [first initial] [])
      (stage : deployment.listener.stage =
        .launching .start initial.store.slots.version initial.store.slots.current) :
      Phase initial moves deployment 2
  | failed {error : ListenerError} (unchanged : Unchanged initial moves deployment)
      (tried : Tried moves deployment [first initial] [.error error])
      (stage : deployment.listener.stage = .failed .start error) : Phase initial moves deployment 3
  | rollingBack {error : ListenerError} {former : Config}
      (unchanged : Unchanged initial moves deployment)
      (displaced : initial.store.slots.previous = some former)
      (tried : Tried moves deployment [first initial] [.error error])
      (stage : deployment.listener.stage = .rollingBack .start error) :
      Phase initial moves deployment 4
  | announcing {former : Config} {error : ListenerError} {event : Event Config}
      (rolledBack : RolledBack initial moves former deployment)
      (tried : Tried moves deployment [first initial] [.error error])
      (stage : deployment.listener.stage = .announcing .start event) :
      Phase initial moves deployment 5
  | rereading {former : Config} {error : ListenerError}
      (rolledBack : RolledBack initial moves former deployment)
      (tried : Tried moves deployment [first initial] [.error error])
      (stage : deployment.listener.stage = .reading) : Phase initial moves deployment 6
  | relaunching {former : Config} {error : ListenerError}
      (rolledBack : RolledBack initial moves former deployment)
      (tried : Tried moves deployment [second initial former, first initial] [.error error])
      (stage : deployment.listener.stage =
        .launching .start (initial.store.slots.version + 1) former) :
      Phase initial moves deployment 7
  | failedAgain {former : Config} {error again : ListenerError}
      (rolledBack : RolledBack initial moves former deployment)
      (tried : Tried moves deployment [second initial former, first initial]
        [.error error, .error again])
      (stage : deployment.listener.stage = .failed .start again) : Phase initial moves deployment 8
  | leaving {error : ListenerError} {steps left : Nat}
      (noWayBack : NoWayBack initial moves deployment)
      (tried : Tried moves deployment [first initial] [.error error])
      (leaving : deployment.listener.IsLeaving (.refused error) (left + 1))
      (few : steps + left ≤ 13) : Phase initial moves deployment steps
  | leavingAgain {former : Config} {error again : ListenerError} {steps left : Nat}
      (rolledBack : RolledBack initial moves former deployment)
      (tried : Tried moves deployment [second initial former, first initial]
        [.error error, .error again])
      (leaving : deployment.listener.IsLeaving (.refused again) (left + 1))
      (few : steps + left ≤ 13) : Phase initial moves deployment steps

variable {initial deployment next : Deployment Config Settings} {moves : List (Move Config)}
  {move : Move Config} {former : Config} {launches : List (Nat × Config)}
  {results : List (Except ListenerError SocketAddress)} {steps : Nat}

theorem Unchanged.stay (unchanged : Unchanged initial moves deployment)
    (spares : deployment.Spares move next) : Unchanged initial (moves ++ [move]) next where
  backing := spares.backing.trans unchanged.backing
  slots := spares.slots.trans unchanged.slots
  files := unchanged.files.stay spares

theorem RolledBack.stay (rolledBack : RolledBack initial moves former deployment)
    (spares : deployment.Spares move next) : RolledBack initial (moves ++ [move]) former next where
  backing := spares.backing.trans rolledBack.backing
  displaced := rolledBack.displaced
  version := spares.slots ▸ rolledBack.version
  current := spares.slots ▸ rolledBack.current
  previous := spares.slots ▸ rolledBack.previous
  written := by
    obtain ⟨found, after, content, kept, written, encoded, holds⟩ := rolledBack.written
    refine ⟨found, after, content, kept.concat move, written, encoded, ?_⟩
    rcases spares.files with same | rfl
    · rw [same]
      exact holds.imp_right (List.mem_append_left _)
    · exact .inr List.mem_concat_self

theorem NoWayBack.stay (noWayBack : NoWayBack initial moves deployment)
    (spares : deployment.Spares move next) : NoWayBack initial (moves ++ [move]) next where
  backing := spares.backing.trans noWayBack.backing
  slots := spares.slots.trans noWayBack.slots
  files := by
    rcases noWayBack.files with ⟨nothing, files⟩ | ⟨former, found, reason, displaced, kept, refused, files⟩
    · exact .inl ⟨nothing, files.stay spares⟩
    · exact .inr ⟨former, found, reason, displaced, kept.concat move, refused, files.stay spares⟩

theorem Tried.stay (tried : Tried moves deployment launches results)
    (same : next.listener.launches = deployment.listener.launches)
    (other : move.launchResult? = none) : Tried (moves ++ [move]) next launches results where
  launches := same.trans tried.launches
  results := by
    rw [launchResults_concat, other, Option.toList_none, List.append_nil]
    exact tried.results

theorem Tried.launched {result : Except ListenerError SocketAddress}
    (tried : Tried moves deployment launches results)
    (same : next.listener.launches = deployment.listener.launches) :
    Tried (moves ++ [.launched result]) next launches (results ++ [result]) where
  launches := same.trans tried.launches
  results := by
    rw [launchResults_concat, tried.results]
    rfl

theorem Phase.stay (phase : Phase initial moves deployment steps) (stays : deployment.Stays move next)
    (outside : move.isOutside = true) : Phase initial (moves ++ [move]) next steps := by
  have other := Move.launchResult?_of_isOutside outside
  cases phase with
  | subscribing unchanged tried stage =>
    exact .subscribing (unchanged.stay stays.toSpares) (tried.stay stays.launches other)
      (stays.stage.trans stage)
  | reading unchanged tried stage =>
    exact .reading (unchanged.stay stays.toSpares) (tried.stay stays.launches other) (stays.stage.trans stage)
  | launching unchanged tried stage =>
    exact .launching (unchanged.stay stays.toSpares) (tried.stay stays.launches other)
      (stays.stage.trans stage)
  | failed unchanged tried stage =>
    exact .failed (unchanged.stay stays.toSpares) (tried.stay stays.launches other) (stays.stage.trans stage)
  | rollingBack unchanged displaced tried stage =>
    exact .rollingBack (unchanged.stay stays.toSpares) displaced (tried.stay stays.launches other)
      (stays.stage.trans stage)
  | announcing rolledBack tried stage =>
    exact .announcing (rolledBack.stay stays.toSpares) (tried.stay stays.launches other)
      (stays.stage.trans stage)
  | rereading rolledBack tried stage =>
    exact .rereading (rolledBack.stay stays.toSpares) (tried.stay stays.launches other)
      (stays.stage.trans stage)
  | relaunching rolledBack tried stage =>
    exact .relaunching (rolledBack.stay stays.toSpares) (tried.stay stays.launches other)
      (stays.stage.trans stage)
  | failedAgain rolledBack tried stage =>
    exact .failedAgain (rolledBack.stay stays.toSpares) (tried.stay stays.launches other)
      (stays.stage.trans stage)
  | leaving noWayBack tried leaving few =>
    exact .leaving (noWayBack.stay stays.toSpares) (tried.stay stays.launches other) (stays.leaving leaving)
      few
  | leavingAgain rolledBack tried leaving few =>
    exact .leavingAgain (rolledBack.stay stays.toSpares) (tried.stay stays.launches other)
      (stays.leaving leaving) few

section

variable [BEq Config] {follow : Event Config → Settings → Settings} {error again : ListenerError}
  {event : Event Config} {left : Nat}
  (moved : deployment.move follow move = some next) (own : move.isOutside = false)

include moved own

theorem of_subscribing {modified : Nat} (unchanged : Unchanged initial moves deployment)
    (tried : Tried moves deployment [] [])
    (stage : deployment.listener.stage = .subscribing modified) :
    Phase initial (moves ++ [move]) next 1 := by
  obtain ⟨rfl, proceeded⟩ := Deployment.own_of_proceeds moved own (by rw [stage]; rfl)
  have subscribed := Deployment.eq_of_proceed_subscribing proceeded stage
  subst subscribed
  exact .reading (unchanged.stay ⟨rfl, rfl, .inl rfl⟩) (tried.stay rfl rfl) rfl

theorem of_reading (unchanged : Unchanged initial moves deployment)
    (tried : Tried moves deployment [] []) (stage : deployment.listener.stage = .reading) :
    Phase initial (moves ++ [move]) next 2 := by
  obtain ⟨rfl, proceeded⟩ := Deployment.own_of_proceeds moved own (by rw [stage]; rfl)
  have read := Deployment.eq_of_proceed_reading proceeded stage
  rw [unchanged.slots] at read
  subst read
  have results : launchResults (moves ++ [.proceed]) = [] := (tried.stay rfl rfl).results
  refine .launching (unchanged.stay ⟨rfl, rfl, .inl rfl⟩) ⟨?_, results⟩ rfl
  rw [first, ← tried.launches]
  rfl

theorem of_launching (unchanged : Unchanged initial moves deployment)
    (tried : Tried moves deployment [first initial] [])
    (stage : deployment.listener.stage =
      .launching .start initial.store.slots.version initial.store.slots.current) :
    Phase initial (moves ++ [move]) next 3 ∨ Ends initial (moves ++ [move]) next := by
  obtain ⟨result, rfl, launched⟩ := Deployment.own_of_launching moved own stage
  cases result with
  | error error =>
    have failed := Deployment.eq_of_start_failed launched stage
    subst failed
    exact .inl (.failed (unchanged.stay ⟨rfl, rfl, .inl rfl⟩) (tried.launched rfl) rfl)
  | ok address =>
    have served := Deployment.eq_of_start_served launched stage
    subst served
    refine .inr (.served (unchanged.stay ⟨rfl, rfl, .inl rfl⟩)
      (tried.launched (Listener.enter_launches _ _)) ?_)
    exact ⟨rfl, Listener.enter_state _ _, rfl, rfl⟩

theorem of_failed (few : deployment.listener.subscriptions.length ≤ 2)
    (unchanged : Unchanged initial moves deployment)
    (tried : Tried moves deployment [first initial] [.error error])
    (stage : deployment.listener.stage = .failed .start error) :
    Phase initial (moves ++ [move]) next 4 := by
  obtain ⟨rfl, proceeded⟩ := Deployment.own_of_proceeds moved own (by rw [stage]; rfl)
  have after := Deployment.eq_of_proceed_failed proceeded stage
  rw [unchanged.slots] at after
  cases displaced : initial.store.slots.previous with
  | some former =>
    have way : initial.store.slots.canRestore = true := by
      rw [Slots.canRestore, displaced]
      rfl
    rw [if_pos way] at after
    subst after
    exact .rollingBack (unchanged.stay ⟨rfl, rfl, .inl rfl⟩) displaced (tried.stay rfl rfl) rfl
  | none =>
    have noWay : ¬initial.store.slots.canRestore = true := by
      rw [Slots.canRestore, displaced]
      exact Bool.false_ne_true
    rw [if_neg noWay] at after
    subst after
    have files := unchanged.files.concat .proceed
    have most : 4 + (deployment.listener.subscriptions.length + 2) ≤ 13 := by omega
    exact .leaving ⟨unchanged.backing, unchanged.slots, .inl ⟨displaced, files⟩⟩ (tried.stay rfl rfl)
      (.unsubscribing rfl) most

theorem of_rollingBack (few : deployment.listener.subscriptions.length ≤ 2)
    (unchanged : Unchanged initial moves deployment)
    (displaced : initial.store.slots.previous = some former)
    (tried : Tried moves deployment [first initial] [.error error])
    (stage : deployment.listener.stage = .rollingBack .start error) :
    Phase initial (moves ++ [move]) next 5 := by
  obtain ⟨rfl, proceeded⟩ := Deployment.own_of_proceeds moved own (by rw [stage]; rfl)
  have there : deployment.store.slots.previous = some former := unchanged.slots ▸ displaced
  have kept := unchanged.files.concat .proceed
  have ways := Deployment.eq_of_proceed_rollingBack proceeded stage there
  rw [unchanged.backing, unchanged.slots] at ways
  rcases ways with ⟨reason, refused, rfl⟩ | ⟨after, written, rfl⟩
  · have most : 5 + (deployment.listener.subscriptions.length + 2) ≤ 13 := by omega
    refine .leaving ⟨unchanged.backing, unchanged.slots, .inr ?_⟩ (tried.stay rfl rfl)
      (.unsubscribing rfl) most
    exact ⟨former, deployment.files, reason, displaced, kept, refused, .inl rfl⟩
  · obtain ⟨content, encoded, holds⟩ := Backing.holds_of_persist written
    have slots : after = { initial.store.slots with seen := some former } :=
      Backing.persist_slots (Prod.ext rfl written)
    subst slots
    refine .announcing ⟨unchanged.backing, displaced, rfl, rfl, rfl, ?_⟩ (tried.stay rfl rfl) rfl
    exact ⟨deployment.files, _, content, kept, written, encoded, .inl holds⟩

theorem of_announcing (rolledBack : RolledBack initial moves former deployment)
    (tried : Tried moves deployment [first initial] [.error error])
    (stage : deployment.listener.stage = .announcing .start event) :
    Phase initial (moves ++ [move]) next 6 := by
  obtain ⟨rfl, proceeded⟩ := Deployment.own_of_proceeds moved own (by rw [stage]; rfl)
  have resumed := Deployment.eq_of_proceed_announcing proceeded stage
  subst resumed
  exact .rereading (rolledBack.stay ⟨rfl, rfl, .inl rfl⟩) (tried.stay rfl rfl) rfl

theorem of_rereading (rolledBack : RolledBack initial moves former deployment)
    (tried : Tried moves deployment [first initial] [.error error])
    (stage : deployment.listener.stage = .reading) : Phase initial (moves ++ [move]) next 7 := by
  obtain ⟨rfl, proceeded⟩ := Deployment.own_of_proceeds moved own (by rw [stage]; rfl)
  have read := Deployment.eq_of_proceed_reading proceeded stage
  rw [rolledBack.version, rolledBack.current] at read
  subst read
  have results : launchResults (moves ++ [.proceed]) = [.error error] := (tried.stay rfl rfl).results
  refine .relaunching (rolledBack.stay ⟨rfl, rfl, .inl rfl⟩) ⟨?_, results⟩ rfl
  rw [second, ← tried.launches]
  rfl

theorem of_relaunching (rolledBack : RolledBack initial moves former deployment)
    (tried : Tried moves deployment [second initial former, first initial] [.error error])
    (stage : deployment.listener.stage =
      .launching .start (initial.store.slots.version + 1) former) :
    Phase initial (moves ++ [move]) next 8 ∨ Ends initial (moves ++ [move]) next := by
  obtain ⟨result, rfl, launched⟩ := Deployment.own_of_launching moved own stage
  cases result with
  | error again =>
    have failed := Deployment.eq_of_start_failed launched stage
    subst failed
    exact .inl (.failedAgain (rolledBack.stay ⟨rfl, rfl, .inl rfl⟩) (tried.launched rfl) rfl)
  | ok address =>
    have served := Deployment.eq_of_start_served launched stage
    subst served
    refine .inr (.servedFormer (rolledBack.stay ⟨rfl, rfl, .inl rfl⟩)
      (tried.launched (Listener.enter_launches _ _)) ?_)
    exact ⟨rfl, Listener.enter_state _ _, rfl, rfl⟩

theorem of_failedAgain (few : deployment.listener.subscriptions.length ≤ 2)
    (rolledBack : RolledBack initial moves former deployment)
    (tried : Tried moves deployment [second initial former, first initial] [.error error, .error again])
    (stage : deployment.listener.stage = .failed .start again) :
    Phase initial (moves ++ [move]) next 9 := by
  obtain ⟨rfl, proceeded⟩ := Deployment.own_of_proceeds moved own (by rw [stage]; rfl)
  have after := Deployment.eq_of_proceed_failed proceeded stage
  have noWay : ¬deployment.store.slots.canRestore = true := by
    rw [Slots.canRestore, rolledBack.previous]
    exact Bool.false_ne_true
  rw [if_neg noWay] at after
  subst after
  have most : 9 + (deployment.listener.subscriptions.length + 2) ≤ 13 := by omega
  exact .leavingAgain (rolledBack.stay ⟨rfl, rfl, .inl rfl⟩) (tried.stay rfl rfl) (.unsubscribing rfl) most

theorem of_isLeaving (coherent : deployment.listener.IsCoherent)
    (leaving : deployment.listener.IsLeaving (.refused error) (left + 1)) :
    deployment.Spares move next ∧ move.launchResult? = none ∧
      next.listener.launches = deployment.listener.launches ∧
      ((∃ fewer, left = fewer + 1 ∧ next.listener.IsLeaving (.refused error) left) ∨
        next.listener.IsRefused error) := by
  have act := (Deployment.step_of_move moved).act
  obtain ⟨fewer, nearer, counted⟩ := act.isLeaving leaving
  rw [own, if_neg Bool.false_ne_true] at counted
  cases counted
  rcases leaving.stage_cases with ⟨_, other⟩ | ⟨farewell, stage⟩ | ⟨other, _⟩
  · cases other
  · obtain ⟨rfl, proceeded⟩ := Deployment.own_of_proceeds moved own (by rw [stage]; rfl)
    cases (Deployment.proceed_of_leaving stage).symm.trans proceeded
    refine ⟨deployment.spares_leave _ _ _, rfl, Listener.leave_launches _ _ _, ?_⟩
    cases left with
    | succ fewer => exact .inl ⟨fewer, rfl, nearer⟩
    | zero =>
      have ended := nearer.ended_iff.mpr rfl
      have shows := act.isCoherent coherent
      simp only [Listener.IsCoherent, ended] at shows
      exact .inr ⟨ended, shows.1, shows.2.1, shows.2.2, nearer.completion ended⟩
  · cases other

end

theorem Phase.stage_cases (phase : Phase initial moves deployment steps) :
    deployment.listener.stage.isSupervised = false ∧ deployment.listener.stage ≠ .fresh ∧
      deployment.listener.stage ≠ .ended ∧ deployment.listener.stage ≠ .waiting := by
  cases phase with
  | subscribing _ _ stage | reading _ _ stage | launching _ _ stage | failed _ _ stage
  | rollingBack _ _ _ stage | announcing _ _ stage | rereading _ _ stage | relaunching _ _ stage
  | failedAgain _ _ stage =>
    rw [stage]
    exact ⟨rfl, nofun, nofun, nofun⟩
  | leaving _ _ leaving | leavingAgain _ _ leaving =>
    rcases leaving.stage_cases with ⟨_, other⟩ | ⟨farewell, stage⟩ | ⟨other, _⟩
    · cases other
    · rw [stage]
      exact ⟨rfl, nofun, nofun, nofun⟩
    · cases other

theorem Phase.length_launches_le (phase : Phase initial moves deployment steps) :
    deployment.listener.launches.length ≤ 2 := by
  cases phase with
  | subscribing _ tried | reading _ tried | launching _ tried | failed _ tried
  | rollingBack _ _ tried | announcing _ tried | rereading _ tried | relaunching _ tried
  | failedAgain _ tried | leaving _ tried | leavingAgain _ tried =>
    rw [tried.launches]
    simp

theorem Phase.steps_le (phase : Phase initial moves deployment steps) : steps ≤ 13 := by
  cases phase with
  | leaving _ _ _ few | leavingAgain _ _ _ few => omega
  | _ => decide

theorem Ends.answered (ends : Ends initial moves deployment) :
    deployment.listener.completion ≠ .unstarted := by
  cases ends with
  | served _ _ serving | servedFormer _ _ serving => simp [serving.pending]
  | refused _ _ refused | refusedAgain _ _ refused => simp [refused.completion]

def IsUnderWay (initial : Deployment Config Settings) (moves : List (Move Config))
    (deployment : Deployment Config Settings) : Prop :=
  deployment.listener.IsCoherent ∧ deployment.listener.subscriptions.length ≤ 2 ∧
    ∃ steps, Phase initial moves deployment steps ∧
      moves.countP Move.isNeeded + deployment.occupied ≤ steps + 1

theorem isUnderWay_of_start {started : Deployment Config Settings} {name : String} (built : initial.listener = .built name)
    (start : initial.start = .ok started) : IsUnderWay initial [] started := by
  unfold Deployment.start at start
  rw [built] at start
  cases start
  refine ⟨⟨rfl, rfl, rfl⟩, Nat.zero_le 2, 0, .subscribing ⟨rfl, rfl, .inl rfl⟩ ⟨rfl, rfl⟩ rfl, ?_⟩
  rw [List.countP_nil, Nat.zero_add, Nat.zero_add]
  exact Bool.toNat_le _

section

variable [BEq Config] {follow : Event Config → Settings → Settings}
  {started reached : Deployment Config Settings}

theorem Phase.own (phase : Phase initial moves deployment steps)
    (coherent : deployment.listener.IsCoherent) (few : deployment.listener.subscriptions.length ≤ 2)
    (moved : deployment.move follow move = some next) (own : move.isOutside = false) :
    Phase initial (moves ++ [move]) next (steps + 1) ∨ Ends initial (moves ++ [move]) next := by
  cases phase with
  | subscribing unchanged tried stage => exact .inl (of_subscribing moved own unchanged tried stage)
  | reading unchanged tried stage => exact .inl (of_reading moved own unchanged tried stage)
  | launching unchanged tried stage => exact of_launching moved own unchanged tried stage
  | failed unchanged tried stage => exact .inl (of_failed moved own few unchanged tried stage)
  | rollingBack unchanged displaced tried stage =>
    exact .inl (of_rollingBack moved own few unchanged displaced tried stage)
  | announcing rolledBack tried stage => exact .inl (of_announcing moved own rolledBack tried stage)
  | rereading rolledBack tried stage => exact .inl (of_rereading moved own rolledBack tried stage)
  | relaunching rolledBack tried stage => exact of_relaunching moved own rolledBack tried stage
  | failedAgain rolledBack tried stage =>
    exact .inl (of_failedAgain moved own few rolledBack tried stage)
  | leaving noWayBack tried leaving most =>
    obtain ⟨spares, other, launches, ⟨fewer, rfl, nearer⟩ | refused⟩ :=
      of_isLeaving moved own coherent leaving
    · exact .inl (.leaving (noWayBack.stay spares) (tried.stay launches other) nearer (by omega))
    · exact .inr (.refused (noWayBack.stay spares) (tried.stay launches other) refused)
  | leavingAgain rolledBack tried leaving most =>
    obtain ⟨spares, other, launches, ⟨fewer, rfl, nearer⟩ | refused⟩ :=
      of_isLeaving moved own coherent leaving
    · exact .inl (.leavingAgain (rolledBack.stay spares) (tried.stay launches other) nearer (by omega))
    · exact .inr (.refusedAgain (rolledBack.stay spares) (tried.stay launches other) refused)

theorem IsUnderWay.step (underWay : IsUnderWay initial moves deployment)
    (moved : deployment.move follow move = some next) (alone : move.isOperation = false) :
    IsUnderWay initial (moves ++ [move]) next ∨ Ends initial (moves ++ [move]) next := by
  obtain ⟨coherent, few, steps, phase, needed⟩ := underWay
  have step := Deployment.step_of_move moved
  have coherentStill := step.act.isCoherent coherent
  have fewStill := step.act.subscriptions_le few
  have released := Deployment.occupied_le moved alone
  have counted : (moves ++ [move]).countP Move.isNeeded =
      moves.countP Move.isNeeded + if move.isNeeded then 1 else 0 := by
    rw [List.countP_append, List.countP_singleton]
  cases outside : move.isOutside with
  | true =>
    rw [outside, if_pos rfl] at released
    refine .inl ⟨coherentStill, fewStill, steps, phase.stay (step.stays outside alone) outside, ?_⟩
    omega
  | false =>
    rw [outside, if_neg Bool.false_ne_true] at released
    refine (phase.own coherent few moved outside).imp_left fun later =>
      ⟨coherentStill, fewStill, steps + 1, later, ?_⟩
    omega

theorem isUnderWay_of_run (underWay : IsUnderWay initial [] started)
    (run : started.run follow moves = some reached)
    (alone : ∀ move ∈ moves, move.isOperation = false)
    (unanswered : reached.listener.completion = .unstarted) : IsUnderWay initial moves reached := by
  induction moves using List.reverseRecOn generalizing reached with
  | nil =>
    cases Option.some.inj run
    exact underWay
  | append_singleton earlier move ih =>
    rw [Deployment.run_append] at run
    obtain ⟨between, runEarlier, last⟩ := Option.bind_eq_some_iff.mp run
    obtain ⟨next, moved, rest⟩ := Option.bind_eq_some_iff.mp last
    cases Option.some.inj rest
    have aloneEarlier : ∀ move ∈ earlier, move.isOperation = false := by
      intro other member
      exact alone other (List.mem_append_left _ member)
    have waiting : between.listener.completion = .unstarted :=
      (Deployment.step_of_move moved).act.unstarted unanswered
    rcases (ih runEarlier aloneEarlier waiting).step moved (alone move List.mem_concat_self) with
      later | ends
    · exact later
    · exact absurd unanswered ends.answered

theorem IsUnderWay.goesOn (underWay : IsUnderWay initial moves deployment) :
    (∃ next, deployment.release = some next) ∨ (∃ next, deployment.proceed = some next) ∨
      ∀ result, ∃ next, deployment.launched result = some next := by
  obtain ⟨_, _, steps, phase, _⟩ := underWay
  obtain ⟨_, fresh, ended, waiting⟩ := phase.stage_cases
  cases free : deployment.store.isFree with
  | false => exact .inl ⟨_, by simp only [Deployment.release, free]; rfl⟩
  | true =>
    by_cases launching : ∃ origin version config,
        deployment.listener.stage = .launching origin version config
    · obtain ⟨origin, version, config, stage⟩ := launching
      exact .inr (.inr (Deployment.exists_launched stage))
    · refine .inr (.inl (Deployment.exists_proceed free fresh ended waiting ?_))
      intro origin version config stage
      exact launching ⟨origin, version, config, stage⟩

end

end FirstStart

namespace Deployment

variable [BEq Config]

/-- While nobody runs an operation on the store, the first start of a listener takes at most fourteen moves and two
launches before its last move, and it can always go on.  That move answers the call of `start`.  If the first launch
has succeeded, then its server is up and the store is as it was.  If it has failed and the value that the last commit
displaced could be written and launched in its place, then the server of that value is up.  Otherwise `start` fails
with the error of the last launch, and the listener has ended and is not told of changes any more. -/
theorem first_start_tries_twice (follow : Event Config → Settings → Settings)
    (initial : Deployment Config Settings) (name : String) (built : initial.listener = .built name)
    (numbered : initial.store.subscriptions.IsNumbered) :
    ∃ started, initial.start = .ok started ∧
      ∀ moves reached, started.run follow moves = some reached →
        (∀ move ∈ moves, move.isOperation = false) → reached.listener.completion = .unstarted →
        reached.listener.launches.length ≤ 2 ∧ moves.countP Move.isNeeded ≤ 14 ∧
          ((∃ next, reached.release = some next) ∨ (∃ next, reached.proceed = some next) ∨
            ∀ result, ∃ next, reached.launched result = some next) ∧
          ∀ move next, move.isOperation = false → reached.move follow move = some next →
            next.listener.completion ≠ .unstarted →
            FirstStart.Ends initial (moves ++ [move]) next ∧
              (next.listener.stage = .ended → next.store.subscriptions =
                { initial.store.subscriptions with
                  nextId := initial.store.subscriptions.nextId + 2 }) := by
  obtain ⟨started, start⟩ : ∃ started, initial.start = .ok started := by
    unfold Deployment.start
    rw [built]
    exact ⟨_, rfl⟩
  refine ⟨started, start, ?_⟩
  intro moves reached run alone unanswered
  have first : initial.move follow .start = some started := by
    rw [move, start]
    rfl
  have underWay := FirstStart.isUnderWay_of_run (FirstStart.isUnderWay_of_start built start) run alone
    unanswered
  refine ⟨?_, ?_, underWay.goesOn, ?_⟩
  · obtain ⟨_, _, steps, phase, _⟩ := underWay
    exact phase.length_launches_le
  · obtain ⟨_, _, steps, phase, needed⟩ := underWay
    have few := phase.steps_le
    omega
  · intro move next aloneLast moved answered
    have whole : initial.run follow (.start :: (moves ++ [move])) = some next := by
      rw [run_cons first, run_append, run]
      exact (run_cons moved []).trans rfl
    refine ⟨(underWay.step moved aloneLast).resolve_left ?_, ?_⟩
    · rintro ⟨_, _, steps, phase, _⟩
      obtain ⟨unsupervised, _, running, _⟩ := phase.stage_cases
      have awaited := ((run_isUnderstood built whole).awaited running).completion
      rw [unsupervised, if_neg Bool.false_ne_true] at awaited
      exact answered awaited
    · intro ended
      have registered := run_isRegistered built numbered whole
      simpa only [Listener.IsRegistered, ended] using registered

theorem first_start_tries_twice_after_rollback :
    let others : Subscriptions Bytes Follower := ⟨2, [], [], [(1, .settings)], []⟩
    let initial : Deployment Bytes Unit :=
      ⟨⟨⟨⟨.ok, .ok⟩, ⟨"a"⟩⟩, (Slots.initial [49]).commit [50], others, []⟩, .fresh [], .built "main", (),
        [(.settings, .modified 1 [49] [50] .file)], [], []⟩
    let address : SocketAddress := ⟨.v4 [127, 0, 0, 1], 8000⟩
    let moves : List (Move Bytes) :=
      [.proceed, .proceed, .launched (.error (.addressNotConfigured "main")), .proceed, .deliver 0,
        .proceed, .proceed, .proceed]
    others.IsNumbered ∧
      ∃ started reached next, initial.start = .ok started ∧
        started.run (fun _ settings => settings) moves = some reached ∧
        reached.listener.completion = .unstarted ∧
        reached.move (fun _ settings => settings) (.launched (.ok address)) = some next ∧
        next.listener.completion ≠ .unstarted ∧
        next.listener.launches = [(2, [49]), (1, [50])] ∧
        next.listener.IsServing ⟨2, [49], address⟩ ∧ next.store.slots.previous = none ∧
        next.files.Holds ⟨"a"⟩ [49] := by
  intro others initial address moves
  let empty : Subscriptions Bytes Follower := .empty
  have subscribed : (empty.onModified .settings).2.IsBuilt := .onModified .empty _
  have numbered : others.IsNumbered := subscribed.isNumbered
  obtain ⟨started, start, first⟩ :=
    first_start_tries_twice (fun _ settings => settings) initial "main" rfl numbered
  cases start
  let before := initial.start.toOption.getD initial
  let isAnswered (deployment : Deployment Bytes Unit) : Bool :=
    match deployment.listener.completion with
    | .unstarted => false
    | _ => true
  have facts : (before.run (fun _ settings => settings) moves).bind (fun reached =>
      (reached.move (fun _ settings => settings) (.launched (.ok address))).map fun next =>
        (isAnswered reached, isAnswered next)) = some (false, true) := by
    decide +kernel
  obtain ⟨reached, run, facts⟩ := Option.bind_eq_some_iff.mp facts
  obtain ⟨next, moved, facts⟩ := Option.map_eq_some_iff.mp facts
  simp only [Prod.mk.injEq, isAnswered] at facts
  obtain ⟨waits, told⟩ := facts
  have unanswered : reached.listener.completion = .unstarted := by
    split at waits
    · assumption
    · cases waits
  have answered : next.listener.completion ≠ .unstarted := by
    intro unstarted
    simp [unstarted] at told
  obtain ⟨_, _, _, last⟩ := first moves reached run (by simp [moves, Move.isOperation]) unanswered
  refine ⟨numbered, before, reached, next, rfl, run, unanswered, moved, answered, ?_⟩
  have results : launchResults (moves ++ [.launched (.ok address)]) =
      [.error (.addressNotConfigured "main"), .ok address] := rfl
  cases (last _ next rfl moved answered).1 with
  | servedFormer rolledBack tried serving =>
    cases rolledBack.displaced
    cases results.symm.trans tried.results
    obtain ⟨_, _, content, _, _, encoded, holds⟩ := rolledBack.written
    cases encoded
    exact ⟨tried.launches, serving, rolledBack.previous, holds.resolve_right (by simp [moves])⟩
  | served _ tried => cases results.symm.trans tried.results
  | refused _ tried => cases results.symm.trans tried.results
  | refusedAgain _ tried => cases results.symm.trans tried.results

end Deployment

end LiveService
