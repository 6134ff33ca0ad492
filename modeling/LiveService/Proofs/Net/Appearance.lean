import Mathlib.Data.List.Chain
import LiveService.Proofs.Net.Act

/-!
What a listener shows: the state that it is seen in, the server that it has, and the address under which it can
be reached.  The three are kept apart and changed at many places, and they agree wherever somebody waits.
-/

namespace LiveService

def ListenerState.canBecome : ListenerState → ListenerState → Bool
  | .idle, .starting => true
  | .idle, .terminated => true
  | .starting, .running => true
  | .starting, .idle => true
  | .starting, .terminated => true
  | .running, .stopping => true
  | .running, .idle => true
  | .running, .terminated => true
  | .stopping, .idle => true
  | _, _ => false

namespace Listener

variable {Config : Type} {listener : Listener Config} {state next : ListenerState}
  {server : Option (Server Config)}

def Shows (listener : Listener Config) (state : ListenerState) (server : Option (Server Config)) :
    Prop :=
  listener.state = state ∧ listener.server = server ∧ listener.address = server.map Server.address

/-- What is shown while a failure is dealt with.  That a server has failed is not shown before the way back is
taken or found to be closed. -/
def ShowsFailure (listener : Listener Config) : Origin → Prop
  | .start => listener.Shows .starting none
  | .supervisor => listener.Shows .starting none ∨ listener.Shows .running none

def IsDown (listener : Listener Config) : Prop :=
  listener.server = none ∧ listener.state.canBecome .terminated = true

/-- What is shown while a listener ends.  The address of a server that has shut down is shown until it is taken back. -/
def ShowsFarewell (listener : Listener Config) (verdict : Verdict) : Farewell → Prop
  | .unsubscribing =>
    listener.IsDown ∧ (verdict.unsubscribed = .terminating → listener.address = none)
  | .withdrawing => listener.IsDown
  | .terminating => listener.IsDown ∧ listener.address = none
  | .reporting => listener.Shows .terminated none

def IsCoherent (listener : Listener Config) : Prop :=
  match listener.stage with
  | .fresh => listener.Shows .idle none
  | .subscribing _ => listener.Shows .idle none
  | .reading => listener.Shows .idle none ∨ listener.Shows .starting none
  | .launching _ _ _ => listener.Shows .starting none
  | .failed origin _ => listener.ShowsFailure origin
  | .rollingBack origin _ => listener.ShowsFailure origin
  | .announcing origin _ => listener.ShowsFailure origin
  | .waiting => listener.Shows .idle none ∨ ∃ server, listener.Shows .running (some server)
  | .closing _ => ∃ server, listener.Shows .stopping (some server)
  | .leaving farewell verdict => listener.ShowsFarewell verdict farewell
  | .ended => listener.Shows .terminated none

def IsOrderly (listener : Listener Config) : Prop :=
  listener.states.IsChain fun later earlier => earlier.canBecome later = true

def HasBound (listener : Listener Config) (moves : List (Move Config)) : Prop :=
  ∀ server, listener.server = some server → lastOf Move.bound? moves = some server.address

theorem Shows.enter (shows : listener.Shows state server) (next : ListenerState) :
    (listener.enter next).Shows next server := by
  obtain ⟨_, server, address⟩ := shows
  refine ⟨listener.enter_state next, ?_, ?_⟩
  · rw [enter_server, server]
  · rw [enter_address, address]

theorem Shows.down (shows : listener.Shows state server) :
    ({ listener with server := none, address := none } : Listener Config).Shows state none :=
  ⟨shows.1, rfl, rfl⟩

theorem Shows.isDown (shows : listener.Shows state none) (last : state.canBecome .terminated = true) :
    listener.IsDown := by
  obtain ⟨rfl, down, _⟩ := shows
  exact ⟨down, last⟩

theorem ShowsFarewell.leave {verdict : Verdict} {farewell : Farewell}
    (shows : listener.ShowsFarewell verdict farewell) (leaving : listener.stage = .leaving farewell verdict) :
    (listener.leave verdict farewell).IsCoherent := by
  cases farewell with
  | unsubscribing =>
    obtain ⟨down, address⟩ := shows
    cases subscriptions : listener.subscriptions with
    | cons id left =>
      simp only [Listener.leave, subscriptions, IsCoherent, leaving]
      exact ⟨down, address⟩
    | nil =>
      simp only [Listener.leave, subscriptions, IsCoherent]
      cases verdict with
      | refused error => exact ⟨down, address rfl⟩
      | resolved outcome => exact down
  | withdrawing => exact ⟨shows, rfl⟩
  | terminating =>
    obtain ⟨⟨down, _⟩, address⟩ := shows
    refine ⟨listener.enter_state _, ?_, ?_⟩
    · exact (listener.enter_server _).trans down
    · exact (listener.enter_address _).trans address
  | reporting => exact shows

theorem IsCoherent.running {server : Server Config} (coherent : listener.IsCoherent)
    (stage : listener.stage = .waiting) (serving : listener.server = some server) :
    listener.Shows .running (some server) := by
  simp only [IsCoherent, stage] at coherent
  rcases coherent with ⟨_, down, _⟩ | ⟨other, running⟩
  · cases serving.symm.trans down
  · cases serving.symm.trans running.2.1
    exact running

theorem IsCoherent.idle (coherent : listener.IsCoherent) (stage : listener.stage = .waiting)
    (down : listener.server = none) : listener.Shows .idle none := by
  simp only [IsCoherent, stage] at coherent
  rcases coherent with idle | ⟨server, _, serving, _⟩
  · exact idle
  · cases down.symm.trans serving

theorem IsOrderly.enter (orderly : listener.IsOrderly) (next : ListenerState)
    (shows : listener.Shows state server) (follows : state = next ∨ state.canBecome next = true) :
    (listener.enter next).IsOrderly := by
  have now : listener.states.headD .idle = state := shows.1
  unfold Listener.enter
  split
  · exact orderly
  · rename_i other
    have allowed := follows.resolve_left fun same => other (now.trans same)
    unfold IsOrderly at *
    cases states : listener.states with
    | nil => exact .singleton next
    | cons latest before =>
      rw [states] at now orderly
      cases now
      exact List.isChain_cons_cons.mpr ⟨allowed, orderly⟩

theorem suffix_enter (listener : Listener Config) (next : ListenerState) :
    listener.states <:+ (listener.enter next).states := by
  unfold enter
  split
  · exact List.suffix_rfl
  · exact List.suffix_cons next listener.states

theorem suffix_leave (listener : Listener Config) (verdict : Verdict) (farewell : Farewell) :
    listener.states <:+ (listener.leave verdict farewell).states := by
  cases farewell with
  | unsubscribing =>
    simp only [leave]
    split <;> exact List.suffix_rfl
  | terminating => exact listener.suffix_enter .terminated
  | withdrawing | reporting => exact List.suffix_rfl

theorem ShowsFarewell.leave_isOrderly {verdict : Verdict} {farewell : Farewell}
    (shows : listener.ShowsFarewell verdict farewell) (orderly : listener.IsOrderly) :
    (listener.leave verdict farewell).IsOrderly := by
  cases farewell with
  | unsubscribing =>
    simp only [Listener.leave]
    split <;> exact orderly
  | terminating =>
    obtain ⟨⟨down, last⟩, address⟩ := shows
    have now : listener.Shows listener.state none := ⟨rfl, down, address⟩
    exact orderly.enter .terminated now (.inr last)
  | withdrawing | reporting => exact orderly

theorem IsCoherent.failing {origin : Origin} {error : ListenerError} (coherent : listener.IsCoherent)
    (stage : listener.stage = .failed origin error ∨ listener.stage = .rollingBack origin error) :
    listener.ShowsFailure origin := by
  unfold IsCoherent at coherent
  rcases stage with stage | stage
  · rw [stage] at coherent
    exact coherent
  · rw [stage] at coherent
    exact coherent

theorem ShowsFailure.farewell {origin : Origin} (shows : listener.ShowsFailure origin)
    (error : ListenerError) : listener.ShowsFarewell (origin.verdict error) .unsubscribing := by
  cases origin with
  | start => exact ⟨shows.isDown rfl, fun _ => shows.2.2⟩
  | supervisor =>
    rcases shows with starting | running
    · exact ⟨starting.isDown rfl, nofun⟩
    · exact ⟨running.isDown rfl, nofun⟩

theorem IsOrderly.final {later : Listener Config} (orderly : later.IsOrderly)
    (seen : listener.states <:+ later.states) (terminated : listener.state = .terminated) :
    later.state = .terminated := by
  obtain ⟨more, states⟩ := seen
  unfold IsOrderly at orderly
  rw [← states] at orderly
  cases more using List.reverseRecOn with
  | nil =>
    rw [Listener.state, ← states]
    exact terminated
  | append_singleton more last =>
    cases before : listener.states with
    | nil =>
      rw [Listener.state, before] at terminated
      cases terminated
    | cons latest earlier =>
      rw [Listener.state, before] at terminated
      cases terminated
      rw [before, List.append_assoc] at orderly
      have follows := (List.isChain_cons_cons.mp orderly.right_of_append).1
      cases last <;> cases follows

end Listener

namespace Deployment

variable {Config Settings : Type} {deployment : Deployment Config Settings} {move : Move Config}
  {store : ConfigStore Config Follower} {listener : Listener Config}

theorem Act.isCoherent (act : deployment.Act move store listener)
    (coherent : deployment.listener.IsCoherent) : listener.IsCoherent := by
  have held := coherent
  unfold Listener.IsCoherent at held
  cases act with
  | outside => exact held
  | start stage | rollBack stage | restored stage =>
    rw [stage] at held
    exact held
  | subscribe stage =>
    rw [stage] at held
    exact .inl held
  | read stage =>
    rw [stage] at held
    rcases held with idle | starting
    · exact idle.enter .starting
    · exact starting.enter .starting
  | giveUp stage refused => exact (coherent.failing stage).farewell _
  | @resume origin event stage =>
    rw [stage] at held
    cases origin with
    | start => exact .inr held
    | supervisor =>
      rcases held with starting | running
      · exact .inl (starting.enter .idle)
      · exact .inl (running.enter .idle)
  | relaunch stage =>
    rw [stage] at held
    obtain ⟨server, stopping⟩ := held
    exact (stopping.enter .idle).down.enter .starting
  | closed stage =>
    rw [stage] at held
    obtain ⟨server, stopping⟩ := held
    have idle := stopping.enter .idle
    exact ⟨⟨rfl, congrArg (ListenerState.canBecome · .terminated) idle.1⟩, nofun⟩
  | leave stage =>
    rw [stage] at held
    exact held.leave stage
  | @served origin version config address stage =>
    exact .inr ⟨⟨version, config, address⟩, deployment.listener.enter_state .running, rfl, rfl⟩
  | @notServed origin version config error stage =>
    rw [stage] at held
    cases origin with
    | start => exact held
    | supervisor => exact .inl held
  | ignore stage serving =>
    exact coherent
  | @replace server stage serving different =>
    have running : ({ deployment.listener with reload := false } : Listener Config).Shows .running
        (some server) :=
      coherent.running stage serving
    exact ⟨server, running.enter .stopping⟩
  | launch stage down =>
    have idle : ({ deployment.listener with reload := false } : Listener Config).Shows .idle none :=
      coherent.idle stage down
    exact idle.enter .starting
  | close stage asked serving =>
    have running := coherent.running stage serving
    exact ⟨_, running.enter .stopping⟩
  | quit stage asked down => exact ⟨(coherent.idle stage down).isDown rfl, nofun⟩
  | serverFailed stage serving =>
    have running := coherent.running stage serving
    exact .inr running.down

theorem Act.isOrderly (act : deployment.Act move store listener)
    (coherent : deployment.listener.IsCoherent) (orderly : deployment.listener.IsOrderly) :
    listener.IsOrderly := by
  have held := coherent
  unfold Listener.IsCoherent at held
  cases act with
  | outside | start | subscribe | rollBack | giveUp | restored | notServed | ignore | quit
  | serverFailed => exact orderly
  | read stage =>
    rw [stage] at held
    rcases held with idle | starting
    · exact orderly.enter .starting idle (.inr rfl)
    · exact orderly.enter .starting starting (.inl rfl)
  | @resume origin event stage =>
    rw [stage] at held
    cases origin with
    | start => exact orderly
    | supervisor =>
      rcases held with starting | running
      · exact orderly.enter .idle starting (.inr rfl)
      · exact orderly.enter .idle running (.inr rfl)
  | relaunch stage =>
    rw [stage] at held
    obtain ⟨server, stopping⟩ := held
    have idle : ({ deployment.listener.enter .idle with server := none, address := none } :
        Listener Config).IsOrderly :=
      orderly.enter .idle stopping (.inr rfl)
    exact idle.enter .starting (stopping.enter .idle).down (.inr rfl)
  | closed stage =>
    rw [stage] at held
    obtain ⟨server, stopping⟩ := held
    exact orderly.enter .idle stopping (.inr rfl)
  | @leave farewell verdict stage =>
    rw [stage] at held
    exact held.leave_isOrderly orderly
  | served stage =>
    rw [stage] at held
    exact orderly.enter .running held (.inr rfl)
  | replace stage serving different =>
    have seen : ({ deployment.listener with reload := false } : Listener Config).IsOrderly := orderly
    have running := coherent.running stage serving
    exact seen.enter .stopping running (.inr rfl)
  | launch stage down =>
    have seen : ({ deployment.listener with reload := false } : Listener Config).IsOrderly := orderly
    have idle := coherent.idle stage down
    exact seen.enter .starting idle (.inr rfl)
  | close stage asked serving =>
    have running := coherent.running stage serving
    exact orderly.enter .stopping running (.inr rfl)

theorem Act.states_suffix (act : deployment.Act move store listener) :
    deployment.listener.states <:+ listener.states := by
  cases act with
  | outside | start | subscribe | rollBack | giveUp | restored | notServed | ignore | quit
  | serverFailed => exact List.suffix_rfl
  | read | served | close | closed => exact Listener.suffix_enter _ _
  | leave => exact Listener.suffix_leave _ _ _
  | replace | launch => exact Listener.suffix_enter { deployment.listener with reload := false } _
  | @resume origin event stage =>
    cases origin with
    | start => exact List.suffix_rfl
    | supervisor => exact Listener.suffix_enter _ _
  | relaunch =>
    have idle := deployment.listener.suffix_enter .idle
    exact idle.trans (Listener.suffix_enter
      { deployment.listener.enter .idle with server := none, address := none } .starting)

def upBy (deployment : Deployment Config Settings) : Move Config → Int
  | .launched (.ok _) => 1
  | .serverFailed _ => -1
  | .proceed =>
    match deployment.listener.stage with
    | .closing _ => -1
    | _ => 0
  | _ => 0

theorem upBy_of_isOutside (deployment : Deployment Config Settings) (outside : move.isOutside = true) :
    deployment.upBy move = 0 := by
  cases move with
  | proceed | launched result | serverFailed error => cases outside
  | _ => rfl

theorem Act.server_cases (act : deployment.Act move store listener)
    (coherent : deployment.listener.IsCoherent) :
    (listener.server = deployment.listener.server ∧ move.bound? = none ∧ deployment.upBy move = 0) ∨
      (∃ server, listener.server = some server ∧ deployment.listener.server = none ∧
        move = .launched (.ok server.address)) ∨
      ∃ server, deployment.listener.server = some server ∧ listener.server = none ∧
        move.bound? = none ∧ deployment.upBy move = -1 := by
  have held := coherent
  unfold Listener.IsCoherent at held
  cases act with
  | outside outside =>
    exact .inl ⟨rfl, Move.bound?_of_isOutside outside, upBy_of_isOutside deployment outside⟩
  | start stage => exact .inl ⟨rfl, rfl, rfl⟩
  | subscribe stage | rollBack stage | restored stage =>
    exact .inl ⟨rfl, rfl, by simp only [upBy, stage]⟩
  | leave stage => exact .inl ⟨deployment.listener.leave_server _ _, rfl, by simp only [upBy, stage]⟩
  | read stage => exact .inl ⟨deployment.listener.enter_server _, rfl, by simp only [upBy, stage]⟩
  | @resume origin event stage =>
    refine .inl ⟨?_, rfl, by simp only [upBy, stage]⟩
    cases origin with
    | start => rfl
    | supervisor => exact deployment.listener.enter_server _
  | giveUp stage refused =>
    refine .inl ⟨rfl, rfl, ?_⟩
    rcases stage with stage | stage
    · simp only [upBy, stage]
    · simp only [upBy, stage]
  | served stage =>
    rw [stage] at held
    exact .inr (.inl ⟨_, rfl, held.2.1, rfl⟩)
  | notServed stage | ignore stage => exact .inl ⟨rfl, rfl, rfl⟩
  | relaunch stage =>
    rw [stage] at held
    obtain ⟨server, _, serving, _⟩ := held
    refine .inr (.inr ⟨server, serving, ?_, rfl, by simp only [upBy, stage]⟩)
    simp only [Listener.closed, Listener.launchOf, Listener.enter_server]
  | closed stage =>
    rw [stage] at held
    obtain ⟨server, _, serving, _⟩ := held
    exact .inr (.inr ⟨server, serving, rfl, rfl, by simp only [upBy, stage]⟩)
  | replace | launch | close => exact .inl ⟨Listener.enter_server _ _, rfl, rfl⟩
  | quit => exact .inl ⟨rfl, rfl, rfl⟩
  | serverFailed stage serving => exact .inr (.inr ⟨_, serving, rfl, rfl, rfl⟩)

theorem Act.hasBound (act : deployment.Act move store listener) {moves : List (Move Config)}
    (coherent : deployment.listener.IsCoherent) (held : deployment.listener.HasBound moves) :
    listener.HasBound (moves ++ [move]) := by
  intro server serving
  rw [lastOf_concat]
  rcases act.server_cases coherent with
    ⟨same, unbound, _⟩ | ⟨other, up, _, rfl⟩ | ⟨former, _, down, _⟩
  · rw [unbound]
    exact held server (same.symm.trans serving)
  · cases up.symm.trans serving
    rfl
  · cases down.symm.trans serving

variable [BEq Config] {follow : Event Config → Settings → Settings}
  {initial reached : Deployment Config Settings} {moves : List (Move Config)}

theorem run_isCoherent {name : String} (built : initial.listener = .built name)
    (run : initial.run follow moves = some reached) : reached.listener.IsCoherent := by
  have fresh : initial.listener.IsCoherent := by
    rw [built]
    exact ⟨rfl, rfl, rfl⟩
  exact run_induction (fun step coherent => step.act.isCoherent coherent) run fresh

theorem run_states_suffix (run : initial.run follow moves = some reached) :
    initial.listener.states <:+ reached.listener.states :=
  run_induction (fun step (held : initial.listener.states <:+ _) => held.trans step.act.states_suffix)
    run List.suffix_rfl

theorem run_isOrderly {name : String} (built : initial.listener = .built name)
    (run : initial.run follow moves = some reached) : reached.listener.IsOrderly := by
  have first : initial.listener.IsOrderly := by
    rw [built]
    exact List.IsChain.singleton ListenerState.idle
  exact run_history (fun _ deployment => deployment.listener.IsOrderly) first
    (fun earlier step held => step.act.isOrderly (run_isCoherent built earlier) held) run

theorem run_hasBound {name : String} (built : initial.listener = .built name)
    (run : initial.run follow moves = some reached) : reached.listener.HasBound moves := by
  have first : initial.listener.HasBound [] := by
    intro server serving
    rw [built] at serving
    cases serving
  exact run_history (fun moves deployment => deployment.listener.HasBound moves) first
    (fun earlier step held => step.act.hasBound (run_isCoherent built earlier) held) run

/-- A listener is seen in its first state and then in states that follow each other, and it never leaves the last
one.  Whenever its supervisor waits, either it is seen running, with a server and under the address that this
server has bound, or it is seen idle, with neither. -/
theorem state_server_and_address_agree (follow : Event Config → Settings → Settings)
    (initial reached : Deployment Config Settings) (moves : List (Move Config)) (name : String)
    (built : initial.listener = .built name) (run : initial.run follow moves = some reached) :
    [.idle] <:+ reached.listener.states ∧ reached.listener.IsOrderly ∧
      (∀ between, initial.ComesBy follow moves between →
        between.listener.states <:+ reached.listener.states ∧
          (between.listener.state = .terminated → reached.listener.state = .terminated)) ∧
      (reached.listener.stage = .waiting →
        reached.listener.Shows .idle none ∨
          ∃ server, reached.listener.Shows .running (some server) ∧
            lastOf Move.bound? moves = some server.address) := by
  have coherent := run_isCoherent built run
  have states := run_states_suffix run
  rw [built] at states
  refine ⟨states, run_isOrderly built run, ?_, ?_⟩
  · intro between comesBy
    obtain ⟨later, further⟩ := comesBy.run run
    have seen := run_states_suffix further
    exact ⟨seen, (run_isOrderly built run).final seen⟩
  · intro waiting
    cases serving : reached.listener.server with
    | none => exact .inl (coherent.idle waiting serving)
    | some server =>
      exact .inr ⟨server, coherent.running waiting serving, run_hasBound built run server serving⟩

theorem state_server_and_address_agree_after_rollback :
    let initial : Deployment Bytes Unit :=
      ⟨⟨⟨⟨.ok, .ok⟩, ⟨"a"⟩⟩, .initial [49], .empty, []⟩, .fresh [], .built "main", (), [], [], []⟩
    let first : SocketAddress := ⟨.v4 [127, 0, 0, 1], 8000⟩
    let second : SocketAddress := ⟨.v4 [127, 0, 0, 1], 8001⟩
    let moves : List (Move Bytes) :=
      [.start, .proceed, .proceed, .launched (.ok first), .operate (.reloadSeeing fun _ => .ok [50]),
        .deliver 0, .wake, .proceed, .launched (.error (.addressNotConfigured "main")), .proceed,
        .proceed, .proceed, .deliver 0, .wake, .launched (.ok second)]
    ∃ reached, initial.run (fun _ settings => settings) moves = some reached ∧
      reached.listener.states =
        [.running, .starting, .idle, .starting, .idle, .stopping, .running, .starting, .idle] ∧
      ∃ server, reached.listener.Shows .running (some server) ∧ server.address = second := by
  intro initial first second moves
  let failure : ListenerError := .addressNotConfigured "main"
  have facts : (initial.run (fun _ settings => settings) moves).map (fun reached =>
      ((reached.serverFailed failure).isSome, reached.listener.states)) =
      some (true,
        [.running, .starting, .idle, .starting, .idle, .stopping, .running, .starting, .idle]) := by
    decide +kernel
  obtain ⟨reached, run, facts⟩ := Option.map_eq_some_iff.mp facts
  simp only [Prod.mk.injEq] at facts
  obtain ⟨canFail, states⟩ := facts
  -- Only a server that is waited for can fail.
  have waiting : reached.listener.stage = .waiting := by
    obtain ⟨next, failed⟩ := Option.isSome_iff_exists.mp canFail
    have step : Step (fun _ settings => settings) reached (.serverFailed failure) next :=
      step_of_serverFailed failed
    cases step with
    | serverFailed stage serving => exact stage
  obtain ⟨_, _, _, shows⟩ := state_server_and_address_agree _ initial reached moves "main" rfl run
  refine ⟨reached, run, states, ?_⟩
  rcases shows waiting with ⟨idle, _⟩ | ⟨server, running, bound⟩
  · rw [Listener.state, states] at idle
    cases idle
  · exact ⟨server, running, (Option.some.inj bound).symm⟩

end Deployment

end LiveService
