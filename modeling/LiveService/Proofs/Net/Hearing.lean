import LiveService.Proofs.Net.Announcing
import LiveService.Proofs.Net.Ending
import LiveService.Proofs.Store.Changes

/-!
What the settings hear.  Once they have subscribed, every change of the value in effect is on its way to them until
they hear of it, whoever makes it and however long its announcement takes; in which order they hear is left open.
-/

namespace LiveService

variable {Config Settings : Type}

theorem Listener.IsRegistered.keeps {listener : Listener Config} {first registry : Subscriptions Config Follower}
    (registered : listener.IsRegistered first registry) (event : Event Config) :
    first.calls event ⊆ registry.calls event := by
  have spared : first.calls event ⊆ ({ first with nextId := first.nextId + 2 }).calls event :=
    (Subscriptions.Remains.none : first.Remains .listener [] _).calls event
  unfold Listener.IsRegistered at registered
  split at registered
  · rw [registered]
    exact List.Subset.refl _
  · rw [registered.2]
    exact Subscriptions.calls_onModified event Follower.listener
  · exact registered.calls event
  · exact registered ▸ spared
  · exact registered ▸ spared
  · rw [registered.2]
    exact Subscriptions.Remains.both.calls event

namespace Deployment

def IsFollowed (deployment : Deployment Config Settings) : Prop :=
  ∀ event : Event Config, event.transition? ≠ none →
    ∃ id, (id, Follower.settings) ∈ deployment.store.subscriptions.calls event

/-- The events that are on their way to the settings: their call has started, or somebody is about to announce
them. -/
def underway (deployment : Deployment Config Settings) : List (Event Config) :=
  deployment.calls.filterMap (fun (follower, event) => if follower = .settings then some event else none) ++
    (deployment.untold ++ deployment.listener.stage.announcing?.toList)

def hears? (deployment : Deployment Config Settings) : Move Config → Option (Event Config)
  | .deliver index =>
    match deployment.calls[index]? with
    | some (.settings, event) => some event
    | _ => none
  | _ => none

def heard [BEq Config] (initial : Deployment Config Settings) (follow : Event Config → Settings → Settings)
    (moves : List (Move Config)) : List (Event Config) :=
  initial.seen (fun deployment move => (deployment.hears? move).toList) follow moves

variable {deployment next between : Deployment Config Settings} {event : Event Config}
  {events news : List (Event Config)} {heard? : Option (Event Config)}

theorem mem_underway :
    event ∈ deployment.underway ↔
      (Follower.settings, event) ∈ deployment.calls ∨ event ∈ deployment.untold ∨
        deployment.listener.stage.announcing? = some event := by
  simp [underway]

theorem mem_calls {store : ConfigStore Config Follower} {follower : Follower} :
    (follower, event) ∈ store.calls events ↔
      event ∈ events ∧ ∃ id, (id, follower) ∈ store.subscriptions.calls event := by
  simp [ConfigStore.calls]

structure IsUnfollowed (deployment : Deployment Config Settings) : Prop where
  subscriptions : deployment.store.subscriptions = .empty
  calls : deployment.calls = []
  stage : deployment.listener.stage = .fresh

theorem IsUnfollowed.append_calls {store : ConfigStore Config Follower} (unfollowed : deployment.IsUnfollowed)
    (same : store.subscriptions = deployment.store.subscriptions) :
    deployment.calls ++ store.calls events = [] := by
  rw [unfollowed.calls, List.nil_append]
  refine List.flatMap_eq_nil_iff.mpr ?_
  intro event _
  rw [same, unfollowed.subscriptions]
  cases event <;> rfl

/-- What a step has to tell of is on its way to the settings afterwards, and what was on its way is so still, unless
they have heard of it. -/
structure Brings (deployment next : Deployment Config Settings) (heard? : Option (Event Config))
    (news : List (Event Config)) : Prop where
  moved : deployment.store.slots.MovesBy next.store.slots (transitions news)
  known : ∀ event ∈ next.underway, event ∈ deployment.underway ∨ event ∈ news
  heard : ∀ event, heard? = some event → event ∈ deployment.underway
  kept : deployment.IsFollowed → ∀ event, event.transition? ≠ none →
    event ∈ deployment.underway ∨ event ∈ news → event ∈ next.underway ∨ heard? = some event

namespace Brings

theorem of_mem_iff (moved : deployment.store.slots.MovesBy next.store.slots (transitions news))
    (members : ∀ event, event ∈ next.underway ↔ event ∈ deployment.underway ∨ event ∈ news) :
    deployment.Brings next none news :=
  ⟨moved, fun event => (members event).mp, nofun, fun _ event _ member => .inl ((members event).mpr member)⟩

theorem of_idle (slots : next.store.slots = deployment.store.slots)
    (calls : next.calls = deployment.calls) (untold : next.untold = deployment.untold)
    (stage : next.listener.stage.announcing? = deployment.listener.stage.announcing?) :
    deployment.Brings next none [] := by
  refine .of_mem_iff ?_ ?_
  · rw [slots]
    exact .stays rfl rfl
  · intro event
    simp only [mem_underway, calls, untold, stage, List.not_mem_nil, or_false]

theorem enact [BEq Config] (deployment : Deployment Config Settings) (command : Command Config)
    (free : deployment.store.withheld = []) :
    deployment.Brings (deployment.enact command) none
      (deployment.store.backing.perform deployment.store.slots deployment.files command).announced := by
  let outcome := deployment.store.backing.perform deployment.store.slots deployment.files command
  change deployment.Brings _ none outcome.announced
  have effect : Effect deployment.store.slots outcome :=
    deployment.store.backing.perform_effect _ _ command
  have before : deployment.untold = deployment.unannounced := by
    rw [Deployment.untold, free, List.nil_append]
  have after : (deployment.enact command).untold =
      outcome.events ++ (deployment.unannounced ++ outcome.lateEvents) := rfl
  have calls : (deployment.enact command).calls = deployment.calls := List.append_nil _
  have listener : (deployment.enact command).listener = deployment.listener := rfl
  refine .of_mem_iff effect.movesBy ?_
  intro event
  simp only [mem_underway, calls, before, after, listener, Outcome.announced, List.mem_append]
  tauto

theorem of_tell {rest : Deployment Config Settings} (slots : rest.store.slots = deployment.store.slots)
    (calls : rest.calls = deployment.calls) (subscriptions : rest.store.subscriptions = deployment.store.subscriptions)
    (before : ∀ event, event ∈ deployment.untold ∨ deployment.listener.stage.announcing? = some event ↔
      event ∈ events ∨ event ∈ rest.untold ∨ rest.listener.stage.announcing? = some event) :
    deployment.Brings (rest.tell events) none [] := by
  have members (event : Event Config) : event ∈ (rest.tell events).underway ↔
      (Follower.settings, event) ∈ deployment.calls ∨
        (Follower.settings, event) ∈ rest.store.calls events ∨
        event ∈ rest.untold ∨ rest.listener.stage.announcing? = some event := by
    rw [mem_underway, tell, calls, List.mem_append, or_assoc]
    rfl
  have unheard (event : Event Config) (heard : none = some event) : event ∈ deployment.underway := by
    cases heard
  refine ⟨slots ▸ .stays rfl rfl, ?_, unheard, ?_⟩
  · intro event member
    left
    rw [mem_underway, before]
    rcases (members event).mp member with called | told | waiting
    · exact .inl called
    · exact .inr (.inl (mem_calls.mp told).1)
    · exact .inr (.inr waiting)
  · intro followed event change member
    left
    rw [members]
    rcases member with member | new
    · rw [mem_underway, before] at member
      rcases member with called | told | waiting
      · exact .inl called
      · have followed := followed event change
        rw [← subscriptions] at followed
        exact .inr (.inl (mem_calls.mpr ⟨told, followed⟩))
      · exact .inr (.inr waiting)
    · cases new

theorem release (deployment : Deployment Config Settings) :
    deployment.Brings (({ deployment with store := deployment.store.released }).tell deployment.store.withheld)
      none [] := by
  refine .of_tell rfl rfl rfl ?_
  intro event
  simp only [Deployment.untold, ConfigStore.released, List.mem_append, List.nil_append, or_assoc]

theorem announce {index : Nat} (found : deployment.unannounced[index]? = some event) :
    deployment.Brings
      (({ deployment with unannounced := deployment.unannounced.eraseIdx index }).tell [event]) none [] := by
  refine .of_tell rfl rfl rfl ?_
  intro other
  have members : other ∈ deployment.unannounced ↔
      other = event ∨ other ∈ deployment.unannounced.eraseIdx index := by
    constructor
    · exact eq_or_mem_eraseIdx found
    · rintro (rfl | left)
      · exact List.mem_of_getElem? found
      · exact List.mem_of_mem_eraseIdx left
  simp only [Deployment.untold, List.mem_append, List.mem_singleton, members]
  tauto

theorem resume {origin : Origin} (count : Count)
    (stage : deployment.listener.stage = .announcing origin event) :
    deployment.Brings
      { (deployment.tell [event]).count count with listener := deployment.listener.resume origin } none [] := by
  have before (other : Event Config) :
      other ∈ deployment.untold ∨ deployment.listener.stage.announcing? = some other ↔
        other ∈ [event] ∨ other ∈ deployment.untold ∨
          (deployment.listener.resume origin).stage.announcing? = some other := by
    rw [stage, Listener.announcing?_resume]
    simp [Stage.announcing?, or_comm, eq_comm]
  have brings : deployment.Brings
      (Deployment.tell { deployment.count count with listener := deployment.listener.resume origin } [event])
      none [] :=
    .of_tell rfl rfl rfl before
  exact brings

theorem tellSettings {index : Nat} (found : deployment.calls[index]? = some (.settings, event))
    (settings : Settings) :
    deployment.Brings
      { deployment with calls := deployment.calls.eraseIdx index, settings := settings } (some event) [] := by
  refine ⟨.stays rfl rfl, ?_, ?_, ?_⟩
  · intro other member
    rw [mem_underway] at member ⊢
    exact .inl (member.imp_left List.mem_of_mem_eraseIdx)
  · rintro other ⟨⟩
    exact mem_underway.mpr (.inl (List.mem_of_getElem? found))
  · intro _ other _ member
    rcases member with member | new
    · rw [mem_underway] at member
      rcases member with called | waiting
      · rcases eq_or_mem_eraseIdx found called with same | left
        · cases same
          exact .inr rfl
        · exact .inl (mem_underway.mpr (.inl left))
      · exact .inl (mem_underway.mpr (.inr waiting))
    · cases new

theorem tellListener {index : Nat} (found : deployment.calls[index]? = some (.listener, event)) :
    deployment.Brings
      { deployment with
        calls := deployment.calls.eraseIdx index
        listener := { deployment.listener with reload := true } } none [] := by
  refine .of_mem_iff (.stays rfl rfl) ?_
  intro other
  have calls : (Follower.settings, other) ∈ deployment.calls.eraseIdx index ↔
      (Follower.settings, other) ∈ deployment.calls := by
    constructor
    · exact List.mem_of_mem_eraseIdx
    · intro called
      exact (eq_or_mem_eraseIdx found called).resolve_left nofun
  simp only [mem_underway, calls, List.not_mem_nil, or_false]
  rfl

theorem restored [BEq Config] {origin : Origin} {error : ListenerError}
    (stage : deployment.listener.stage = .rollingBack origin error)
    (late : (deployment.store.backing.restore deployment.store.slots deployment.files).lateEvents = [event]) :
    deployment.Brings
      { deployment.settle
          (deployment.store.backing.restore deployment.store.slots deployment.files) with
        listener := { deployment.listener with stage := .announcing origin event } }
      none (deployment.store.backing.restore deployment.store.slots deployment.files).announced := by
  let outcome := deployment.store.backing.restore deployment.store.slots deployment.files
  change deployment.Brings { deployment.settle outcome with
    listener := { deployment.listener with stage := .announcing origin event } } none outcome.announced
  have effect : Effect deployment.store.slots outcome :=
    deployment.store.backing.perform_effect deployment.store.slots deployment.files .restore
  have nothing : outcome.events = [] := effect.events_of_late late
  refine .of_mem_iff effect.movesBy ?_
  intro other
  have calls : (deployment.settle outcome).calls = deployment.calls := by
    rw [settle, nothing]
    exact List.append_nil _
  have before : deployment.listener.stage.announcing? = none := by rw [stage]; rfl
  have announced : outcome.announced = [event] := by
    rw [Outcome.announced, nothing, late, List.nil_append]
  rw [mem_underway, mem_underway, announced, before]
  change (Follower.settings, other) ∈ (deployment.settle outcome).calls ∨ other ∈ deployment.untold ∨
    some event = some other ↔ _
  rw [calls]
  simp only [Option.some.injEq, List.mem_singleton, reduceCtorEq, or_false, or_assoc, eq_comm]

theorem trans (brings : deployment.Brings between none news) (further : between.Brings next none [])
    (subscriptions : between.store.subscriptions = deployment.store.subscriptions) :
    deployment.Brings next none news := by
  have later : next.store.slots.version = between.store.slots.version ∧
      next.store.slots.current = between.store.slots.current := by
    cases further.moved with
    | stays version current => exact ⟨version, current⟩
  refine ⟨brings.moved.congr later.1 later.2, ?_, nofun, ?_⟩
  · intro event member
    exact brings.known event ((further.known event member).resolve_right nofun)
  · intro followed event change member
    have followedStill : between.IsFollowed := by
      rw [IsFollowed, subscriptions]
      exact followed
    exact further.kept followedStill event change
      (.inl ((brings.kept followed event change member).resolve_right nofun))

theorem operate [BEq Config] (deployment : Deployment Config Settings) (command : Command Config)
    (free : deployment.store.withheld = []) :
    deployment.Brings (deployment.operate command).1 none
      (deployment.store.backing.perform deployment.store.slots deployment.files command).announced := by
  rw [operate_eq_enact deployment command free]
  exact (enact deployment command free).trans (release _) rfl

theorem leave {farewell : Farewell} {verdict : Verdict}
    (stage : deployment.listener.stage = .leaving farewell verdict) :
    deployment.Brings (deployment.leave verdict farewell) none [] := by
  have silent : deployment.listener.stage.announcing? = none := by
    rw [stage]
    rfl
  obtain ⟨subscriptions, left⟩ := deployment.leave_eq verdict farewell
  rw [left]
  exact .of_idle rfl rfl rfl ((Listener.announcing?_leave stage).trans silent.symm)

end Brings

theorem Step.brings [BEq Config] {follow : Event Config → Settings → Settings} {move : Move Config}
    (step : Step follow deployment move next) :
    ∃ news, deployment.Brings next (deployment.hears? move) news := by
  cases step with
  | operate command free => exact ⟨_, .operate deployment command free⟩
  | enact command free => exact ⟨_, .enact deployment command free⟩
  | release => exact ⟨_, .release deployment⟩
  | announce found => exact ⟨_, .announce found⟩
  | tellListener found =>
    simp only [hears?, found]
    exact ⟨_, .tellListener found⟩
  | tellSettings found =>
    simp only [hears?, found]
    exact ⟨_, .tellSettings found _⟩
  | changeFiles files => exact ⟨_, .of_idle rfl rfl rfl rfl⟩
  | askToStop =>
    unfold Deployment.askToStop
    split
    · exact ⟨_, .of_idle rfl rfl rfl rfl⟩
    · exact ⟨_, .of_idle rfl rfl rfl rfl⟩
  | restored stage free done late change => exact ⟨_, .restored stage late⟩
  | resume stage => exact ⟨_, .resume _ stage⟩
  | leave stage => exact ⟨_, .leave stage⟩
  | start stage | subscribe stage | read stage | rollBack stage | giveUp stage | restoreFailed stage
  | relaunch stage | closed stage | started stage | startFailed stage | restarted stage
  | restartFailed stage | replace stage | launch stage | close stage | quit stage | serverFailed stage =>
    exact ⟨_, .of_idle rfl rfl rfl (by rw [stage]; rfl)⟩
  | ignore => exact ⟨_, .of_idle rfl rfl rfl rfl⟩

variable {base : Nat} {past : List (Transition Config)}

theorem mem_transitions {change : Transition Config} :
    change ∈ transitions events ↔ ∃ event ∈ events, event.transition? = some change :=
  List.mem_filterMap

theorem Brings.isReachedBy (brings : deployment.Brings next heard? news)
    (reached : deployment.store.slots.IsReachedBy base (past ++ transitions deployment.underway)) :
    next.store.slots.IsReachedBy base
      (past ++ transitions heard?.toList ++ transitions next.underway) := by
  refine reached.moved brings.moved ?_
  intro change member
  simp only [List.mem_append, mem_transitions, Option.mem_toList] at member ⊢
  rcases member with (old | ⟨event, hears, told⟩) | ⟨event, later, told⟩
  · exact .inl (.inl old)
  · exact .inl (.inr ⟨event, brings.heard event hears, told⟩)
  · rcases brings.known event later with before | new
    · exact .inl (.inr ⟨event, before, told⟩)
    · exact .inr ⟨event, new, told⟩

theorem Brings.isCoveredBy (brings : deployment.Brings next heard? news) (followed : deployment.IsFollowed)
    (covered : deployment.store.slots.IsCoveredBy base (past ++ transitions deployment.underway)) :
    next.store.slots.IsCoveredBy base
      (past ++ transitions heard?.toList ++ transitions next.underway) := by
  refine covered.moved brings.moved ?_
  intro change member
  simp only [List.mem_append, mem_transitions, Option.mem_toList] at member ⊢
  have kept (event : Event Config) (told : event.transition? = some change)
      (before : event ∈ deployment.underway ∨ event ∈ news) :
      event ∈ next.underway ∨ heard? = some event :=
    brings.kept followed event (by rw [told]; nofun) before
  rcases member with (old | ⟨event, before, told⟩) | ⟨event, new, told⟩
  · exact .inl (.inl old)
  · rcases kept event told (.inl before) with later | hears
    · exact .inr ⟨event, later, told⟩
    · exact .inl (.inr ⟨event, hears, told⟩)
  · rcases kept event told (.inr new) with later | hears
    · exact .inr ⟨event, later, told⟩
    · exact .inl (.inr ⟨event, hears, told⟩)

theorem Act.of_isOutside {move : Move Config} {store : ConfigStore Config Follower} {listener : Listener Config}
    (act : deployment.Act move store listener) (outside : move.isOutside = true) :
    store.subscriptions = deployment.store.subscriptions ∧
      listener.stage = deployment.listener.stage := by
  cases act with
  | outside => exact ⟨rfl, rfl⟩
  | _ => cases outside

section

variable [BEq Config] {follow : Event Config → Settings → Settings}
  {initial reached : Deployment Config Settings} {move : Move Config} {moves : List (Move Config)}

theorem heard_concat (run : initial.run follow moves = some reached) (move : Move Config) :
    initial.heard follow (moves ++ [move]) = initial.heard follow moves ++ (reached.hears? move).toList :=
  seen_concat run move

theorem Step.settings_eq (step : Step follow deployment move next) :
    next.settings =
      (deployment.hears? move).toList.foldl (fun settings event => follow event settings)
        deployment.settings := by
  cases step with
  | tellSettings found | tellListener found =>
    simp only [hears?, found]
    rfl
  | askToStop =>
    unfold Deployment.askToStop
    split <;> rfl
  | _ => rfl

/-- The settings have become what they are by what they have heard of, and that leads to the value in effect together
with the changes before it and with those on their way. -/
structure Follows (deployment : Deployment Config Settings) (follow : Event Config → Settings → Settings)
    (base : Nat) (past : List (Transition Config)) (start : Settings) (heard : List (Event Config)) : Prop where
  settings : deployment.settings = heard.foldl (fun settings event => follow event settings) start
  reached : deployment.store.slots.IsReachedBy base
    (past ++ transitions heard ++ transitions deployment.underway)

theorem Follows.run {start : Settings} {heard : List (Event Config)}
    (follows : initial.Follows follow base past start heard) (run : initial.run follow moves = some reached) :
    reached.Follows follow base past start (heard ++ initial.heard follow moves) := by
  refine run_history (fun moves deployment =>
    deployment.Follows follow base past start (heard ++ initial.heard follow moves)) ?_ ?_ run
  · simpa only [Deployment.heard, seen, List.append_nil] using follows
  · intro moves deployment move next earlier step held
    obtain ⟨news, brings⟩ := step.brings
    rw [heard_concat earlier, ← List.append_assoc]
    refine ⟨?_, ?_⟩
    · rw [List.foldl_append, ← held.settings]
      exact step.settings_eq
    · rw [transitions_append, ← List.append_assoc]
      exact brings.isReachedBy held.reached

theorem run_isCoveredBy (followed : ∀ between, initial.ComesBy follow moves between → between.IsFollowed)
    (run : initial.run follow moves = some reached)
    (first : initial.store.slots.IsCoveredBy base (past ++ transitions initial.underway)) :
    reached.store.slots.IsCoveredBy base
      (past ++ transitions (initial.heard follow moves) ++ transitions reached.underway) := by
  refine run_history (fun moves deployment =>
    (∀ between, initial.ComesBy follow moves between → between.IsFollowed) →
      deployment.store.slots.IsCoveredBy base
        (past ++ transitions (initial.heard follow moves) ++ transitions deployment.underway)) ?_ ?_ run followed
  · intro _
    simpa only [heard, seen, transitions, List.filterMap_nil, List.append_nil] using first
  · intro moves deployment move next earlier step held followed
    have covered := held fun between comesBy => followed between (comesBy.concat move)
    obtain ⟨news, brings⟩ := step.brings
    rw [heard_concat earlier, transitions_append, ← List.append_assoc]
    exact brings.isCoveredBy (followed deployment ((ComesBy.last earlier).concat move)) covered

theorem run_outside (outside : ∀ move ∈ moves, move.isOutside = true)
    (run : initial.run follow moves = some reached) :
    reached.store.subscriptions = initial.store.subscriptions ∧
      reached.listener.stage = initial.listener.stage := by
  refine run_history (fun moves deployment => (∀ move ∈ moves, move.isOutside = true) →
    deployment.store.subscriptions = initial.store.subscriptions ∧
      deployment.listener.stage = initial.listener.stage) (fun _ => ⟨rfl, rfl⟩) ?_ run outside
  intro moves deployment move next earlier step held outside
  obtain ⟨subscriptions, stage⟩ := held fun move member => outside move (List.mem_append_left _ member)
  obtain ⟨sameSubscriptions, sameStage⟩ :=
    step.act.of_isOutside (outside move (List.mem_append_right _ List.mem_cons_self))
  exact ⟨sameSubscriptions.trans subscriptions, sameStage.trans stage⟩

theorem Step.isUnfollowed (step : Step follow deployment move next) (outside : move.isOutside = true)
    (unfollowed : deployment.IsUnfollowed) : deployment.hears? move = none ∧ next.IsUnfollowed := by
  obtain ⟨subscriptions, stage⟩ := step.act.of_isOutside outside
  have still (calls : next.calls = []) : next.IsUnfollowed :=
    ⟨subscriptions.trans unfollowed.subscriptions, calls, stage.trans unfollowed.stage⟩
  cases step with
  | operate | enact | release | announce => exact ⟨rfl, still (unfollowed.append_calls rfl)⟩
  | tellListener found | tellSettings found =>
    rw [unfollowed.calls] at found
    cases found
  | changeFiles => exact ⟨rfl, still unfollowed.calls⟩
  | askToStop =>
    refine ⟨rfl, still ?_⟩
    unfold Deployment.askToStop
    split <;> exact unfollowed.calls
  | _ => cases outside

theorem run_isUnfollowed (outside : ∀ move ∈ moves, move.isOutside = true)
    (unfollowed : initial.IsUnfollowed) (run : initial.run follow moves = some reached) :
    reached.IsUnfollowed ∧ initial.heard follow moves = [] := by
  refine run_history (fun moves deployment => (∀ move ∈ moves, move.isOutside = true) →
    deployment.IsUnfollowed ∧ initial.heard follow moves = []) (fun _ => ⟨unfollowed, rfl⟩) ?_ run outside
  intro moves deployment move next earlier step held outside
  obtain ⟨unfollowed, nothing⟩ := held fun move member => outside move (List.mem_append_left _ member)
  obtain ⟨unheard, still⟩ :=
    step.isUnfollowed (outside move (List.mem_append_right _ List.mem_cons_self)) unfollowed
  rw [heard_concat earlier, nothing, unheard]
  exact ⟨still, rfl⟩

theorem run_isFollowed {name : String} (built : initial.listener = .built name)
    (numbered : initial.store.subscriptions.IsNumbered) (followed : initial.IsFollowed)
    (run : initial.run follow moves = some reached) : reached.IsFollowed := by
  intro event change
  obtain ⟨id, member⟩ := followed event change
  exact ⟨id, (run_isRegistered built numbered run).keeps event member⟩

end

end Deployment

end LiveService
