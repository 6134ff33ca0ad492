import LiveService.Proofs.Net.Act
import LiveService.Proofs.Net.Wakeup
import LiveService.Proofs.Store.History

/-!
In which order the events are handed to the subscribers.  A modification is announced by an operation that has the
store, and so after every change before it; a restoration is announced once the store is free again, and may be
overtaken.
-/

namespace LiveService

variable {Config Settings : Type}

namespace Event

def isLate : Event Config → Bool
  | .restored _ _ _ => true
  | _ => false

def IsWithin (event : Event Config) (version : Nat) : Prop :=
  ∀ change, event.transition? = some change → change.version ≤ version

def IsBeyond (event : Event Config) (version : Nat) : Prop :=
  ∀ change, event.transition? = some change → version < change.version

def Precedes (earlier later : Event Config) : Prop :=
  ∀ change other, earlier.transition? = some change → later.transition? = some other →
    change.version < other.version

variable {event earlier later : Event Config} {version newer : Nat}

theorem IsWithin.mono (within : event.IsWithin version) (older : version ≤ newer) : event.IsWithin newer :=
  fun change told => Nat.le_trans (within change told) older

theorem IsWithin.precedes (within : earlier.IsWithin version) (beyond : later.IsBeyond version) :
    earlier.Precedes later :=
  fun change other told toldOther => Nat.lt_of_le_of_lt (within change told) (beyond other toldOther)

end Event

theorem Effect.announces {slots : Slots Config} {outcome : Outcome Config} (effect : Effect slots outcome) :
    (∀ event ∈ outcome.announced,
      event.IsBeyond slots.version ∧ event.IsWithin outcome.slots.version) ∧
    outcome.events.Pairwise Event.Precedes ∧ (∀ event ∈ outcome.lateEvents, event.isLate = true) ∧
    (outcome.events = [] ∨ outcome.lateEvents = []) := by
  cases effect with
  | kept version current previous untold lateEvents =>
    have silent (event : Event Config) (member : event ∈ outcome.announced) : event.transition? = none := by
      rw [Outcome.announced, lateEvents, List.append_nil] at member
      exact untold event member
    refine ⟨fun event member => ⟨?_, ?_⟩, ?_, ?_, .inr lateEvents⟩
    · intro change told
      cases (silent event member).symm.trans told
    · intro change told
      cases (silent event member).symm.trans told
    · refine List.pairwise_of_forall_mem_list ?_
      intro earlier member _ _ change _ told
      cases (untold earlier member).symm.trans told
    · rw [lateEvents]
      exact List.forall_mem_nil _
  | committed source version previous events lateEvents =>
    rw [Outcome.announced, events, lateEvents]
    refine ⟨?_, List.pairwise_singleton _ _, List.forall_mem_nil _, .inr rfl⟩
    simp only [List.append_nil, List.mem_singleton, forall_eq]
    refine ⟨?_, ?_⟩
    · rintro change ⟨⟩
      exact version ▸ Nat.lt_succ_self _
    · rintro change ⟨⟩
      exact Nat.le_refl _
  | restored former version previous events lateEvents =>
    rw [Outcome.announced, events, lateEvents]
    refine ⟨?_, .nil, ?_, .inl rfl⟩
    · simp only [List.nil_append, List.mem_singleton, forall_eq]
      refine ⟨?_, ?_⟩
      · rintro change ⟨⟩
        exact version ▸ Nat.lt_succ_self _
      · rintro change ⟨⟩
        exact Nat.le_refl _
    · simp only [List.mem_singleton, forall_eq]
      rfl

theorem Effect.events_of_late {slots : Slots Config} {outcome : Outcome Config} {event : Event Config}
    (effect : Effect slots outcome) (late : outcome.lateEvents = [event]) : outcome.events = [] := by
  obtain ⟨_, _, _, nothing | nothing⟩ := effect.announces
  · exact nothing
  · cases late.symm.trans nothing

def Stage.announcing? : Stage Config → Option (Event Config)
  | .announcing _ event => some event
  | _ => none

theorem Listener.announcing?_resume (listener : Listener Config) (origin : Origin) :
    (listener.resume origin).stage.announcing? = none := by
  cases origin <;> rfl

theorem Listener.announcing?_leave {listener : Listener Config} {verdict : Verdict} {farewell : Farewell}
    (leaving : listener.stage = .leaving farewell verdict) :
    (listener.leave verdict farewell).stage.announcing? = none := by
  rcases Listener.leave_cases leaving with ⟨⟨next, stage⟩, _⟩ | ⟨stage, _⟩
  · rw [stage]
    rfl
  · rw [stage]
    rfl

namespace Deployment

def late (deployment : Deployment Config Settings) : List (Event Config) :=
  deployment.unannounced ++ deployment.listener.stage.announcing?.toList

def announces [BEq Config] (deployment : Deployment Config Settings) : Move Config → List (Event Config)
  | .operate command =>
    (deployment.store.backing.perform deployment.store.slots deployment.files command).events
  | .release => deployment.store.withheld
  | .announce index => deployment.unannounced[index]?.toList
  | .proceed => deployment.listener.stage.announcing?.toList
  | _ => []

def announced [BEq Config] (initial : Deployment Config Settings) (follow : Event Config → Settings → Settings)
    (moves : List (Move Config)) : List (Event Config) :=
  initial.seen announces follow moves

/-- `told` are all announcements so far.  What is known of them is within a bound, and what an operation that has the
store still withholds is beyond it. -/
structure HasTold (deployment : Deployment Config Settings) (told : List (Event Config)) (bound : Nat) : Prop where
  ordered : told.Pairwise fun earlier later => later.isLate = false → earlier.Precedes later
  within : ∀ event ∈ told ++ deployment.late, event.IsWithin bound
  late : ∀ event ∈ deployment.late, event.isLate = true
  bounded : bound ≤ deployment.store.slots.version
  withheld : ∀ event ∈ deployment.store.withheld,
    event.IsBeyond bound ∧ event.IsWithin deployment.store.slots.version
  succession : deployment.store.withheld.Pairwise Event.Precedes

variable {deployment next : Deployment Config Settings} {told events : List (Event Config)} {bound : Nat}

namespace HasTold

theorem congr (hasTold : deployment.HasTold told bound) (slots : next.store.slots = deployment.store.slots)
    (withheld : next.store.withheld = deployment.store.withheld) (late : next.late = deployment.late) :
    next.HasTold told bound := by
  obtain ⟨ordered, within, lateOnes, bounded, held, succession⟩ := hasTold
  exact ⟨ordered, late ▸ within, late ▸ lateOnes, slots ▸ bounded, slots ▸ withheld ▸ held,
    withheld ▸ succession⟩

theorem append (hasTold : deployment.HasTold told bound) (beyond : ∀ event ∈ events, event.IsBeyond bound)
    (succession : events.Pairwise Event.Precedes) :
    (told ++ events).Pairwise fun earlier later => later.isLate = false → earlier.Precedes later := by
  refine List.pairwise_append.mpr ⟨hasTold.ordered, ?_, ?_⟩
  · exact succession.imp fun {_ later} precedes (_ : later.isLate = false) => precedes
  · intro earlier member later memberLater _
    exact (hasTold.within earlier (List.mem_append_left _ member)).precedes (beyond later memberLater)

theorem perform {outcome : Outcome Config} (hasTold : deployment.HasTold told bound)
    (effect : Effect deployment.store.slots outcome) (slots : next.store.slots = outcome.slots)
    (withheld : next.store.withheld = outcome.events)
    (late : ∀ event ∈ next.late, event ∈ deployment.late ∨ event ∈ outcome.lateEvents) :
    ∃ bound, next.HasTold told bound := by
  obtain ⟨between, succession, lateEvents, separate⟩ := effect.announces
  have rises : deployment.store.slots.version ≤ outcome.slots.version := effect.advances.version_le
  have lateNow (event : Event Config) (member : event ∈ next.late) : event.isLate = true :=
    (late event member).elim (hasTold.late event) (lateEvents event)
  rcases separate with nothing | nothing
  · refine ⟨outcome.slots.version, hasTold.ordered, ?_, lateNow, ?_, ?_, ?_⟩
    · intro event member
      have known : event ∈ told ++ deployment.late ∨ event ∈ outcome.lateEvents := by
        rcases List.mem_append.mp member with old | new
        · exact .inl (List.mem_append_left _ old)
        · exact (late event new).imp_left (List.mem_append_right _)
      rcases known with old | new
      · exact (hasTold.within event old).mono (Nat.le_trans hasTold.bounded rises)
      · exact (between event (List.mem_append_right _ new)).2
    · rw [slots]
    · rw [withheld, nothing]
      exact List.forall_mem_nil _
    · rw [withheld, nothing]
      exact .nil
  · refine ⟨bound, hasTold.ordered, ?_, lateNow, ?_, ?_, ?_⟩
    · intro event member
      refine hasTold.within event ?_
      rcases List.mem_append.mp member with old | new
      · exact List.mem_append_left _ old
      · rw [nothing] at late
        exact List.mem_append_right _ ((late event new).resolve_right nofun)
    · rw [slots]
      exact Nat.le_trans hasTold.bounded rises
    · intro event member
      rw [withheld] at member
      rw [slots]
      obtain ⟨beyond, within⟩ := between event (List.mem_append_left _ member)
      exact ⟨fun change told => Nat.lt_of_le_of_lt hasTold.bounded (beyond change told), within⟩
    · rw [withheld]
      exact succession

theorem release (hasTold : deployment.HasTold told bound) (slots : next.store.slots = deployment.store.slots)
    (withheld : next.store.withheld = []) (late : next.late = deployment.late) :
    ∃ bound, next.HasTold (told ++ deployment.store.withheld) bound := by
  refine ⟨deployment.store.slots.version, ?_, ?_, late ▸ hasTold.late, slots ▸ Nat.le_refl _, ?_, ?_⟩
  · exact hasTold.append (fun event member => (hasTold.withheld event member).1) hasTold.succession
  · intro event member
    rw [late, List.append_assoc, List.mem_append, List.mem_append] at member
    rcases member with old | held | old
    · exact (hasTold.within event (List.mem_append_left _ old)).mono hasTold.bounded
    · exact (hasTold.withheld event held).2
    · exact (hasTold.within event (List.mem_append_right _ old)).mono hasTold.bounded
  · rw [withheld]
    exact List.forall_mem_nil _
  · rw [withheld]
    exact .nil

theorem announce {event : Event Config} (hasTold : deployment.HasTold told bound) (found : event ∈ deployment.late)
    (slots : next.store.slots = deployment.store.slots)
    (withheld : next.store.withheld = deployment.store.withheld)
    (late : ∀ other ∈ next.late, other ∈ deployment.late) : next.HasTold (told ++ [event]) bound := by
  refine ⟨?_, ?_, fun other member => hasTold.late other (late other member), slots ▸ hasTold.bounded,
    slots ▸ withheld ▸ hasTold.withheld, withheld ▸ hasTold.succession⟩
  · refine List.pairwise_append.mpr ⟨hasTold.ordered, List.pairwise_singleton _ _, ?_⟩
    intro earlier _ later member prompt
    rw [List.mem_singleton.mp member, hasTold.late event found] at prompt
    cases prompt
  · intro other member
    refine hasTold.within other (List.mem_append.mpr ?_)
    rw [List.append_assoc, List.mem_append, List.mem_append, List.mem_singleton] at member
    rcases member with old | rfl | old
    · exact .inl old
    · exact .inr found
    · exact .inr (late other old)

theorem enact [BEq Config] (hasTold : deployment.HasTold told bound) (command : Command Config) :
    ∃ bound, (deployment.enact command).HasTold told bound := by
  refine hasTold.perform (deployment.store.backing.perform_effect _ _ command) rfl rfl ?_
  intro event member
  rcases List.mem_append.mp member with waiting | announcing
  · exact (List.mem_append.mp waiting).imp_left (List.mem_append_left _)
  · exact .inl (List.mem_append_right _ announcing)

theorem resume {origin : Origin} {event : Event Config} (hasTold : deployment.HasTold told bound)
    (stage : deployment.listener.stage = .announcing origin event) (count : Count) :
    HasTold { (deployment.tell [event]).count count with listener := deployment.listener.resume origin }
      (told ++ [event]) bound := by
  refine hasTold.announce ?_ rfl rfl ?_
  · exact List.mem_append_right _ (by rw [stage]; exact List.mem_singleton_self event)
  · intro other member
    rcases List.mem_append.mp member with waiting | announcing
    · exact List.mem_append_left _ waiting
    · rw [Listener.announcing?_resume] at announcing
      cases announcing

theorem restored [BEq Config] {origin : Origin} {event : Event Config}
    (hasTold : deployment.HasTold told bound) (free : deployment.store.withheld = [])
    (late : (deployment.store.backing.restore deployment.store.slots deployment.files).lateEvents = [event]) :
    ∃ bound, HasTold
      { deployment.settle (deployment.store.backing.restore deployment.store.slots deployment.files) with
        listener := { deployment.listener with stage := .announcing origin event } } told bound := by
  have effect := deployment.store.backing.perform_effect deployment.store.slots deployment.files .restore
  refine hasTold.perform effect rfl (free.trans (effect.events_of_late late).symm) ?_
  intro other member
  rcases List.mem_append.mp member with waiting | announcing
  · exact .inl (List.mem_append_left _ waiting)
  · exact .inr (late ▸ announcing)

end HasTold

variable [BEq Config] {follow : Event Config → Settings → Settings} {move : Move Config}
  {initial reached : Deployment Config Settings} {moves : List (Move Config)}

theorem Step.hasTold (step : Step follow deployment move next) (hasTold : deployment.HasTold told bound) :
    ∃ bound, next.HasTold (told ++ deployment.announces move) bound := by
  have idle (slots : next.store.slots = deployment.store.slots)
      (withheld : next.store.withheld = deployment.store.withheld) (late : next.late = deployment.late)
      (silent : deployment.announces move = []) :
      ∃ bound, next.HasTold (told ++ deployment.announces move) bound := by
    rw [silent, List.append_nil]
    exact ⟨bound, hasTold.congr slots withheld late⟩
  cases step with
  | operate command free =>
    obtain ⟨bound, enacted⟩ := hasTold.enact command
    rw [operate_eq_enact deployment command free]
    exact enacted.release rfl rfl rfl
  | enact command free =>
    rw [show deployment.announces (.enact command) = [] from rfl, List.append_nil]
    exact hasTold.enact command
  | release => exact hasTold.release rfl rfl rfl
  | @announce index event found =>
    have announced : deployment.announces (.announce index) = [event] := by
      rw [announces, found]
      rfl
    rw [announced]
    refine ⟨bound, hasTold.announce (List.mem_append_left _ (List.mem_of_getElem? found)) rfl rfl ?_⟩
    intro other member
    rcases List.mem_append.mp member with waiting | announcing
    · exact List.mem_append_left _ (List.mem_of_mem_eraseIdx waiting)
    · exact List.mem_append_right _ announcing
  | @resume origin event stage =>
    have announced : deployment.announces .proceed = [event] := by
      rw [announces, stage]
      rfl
    rw [announced]
    exact ⟨bound, hasTold.resume stage _⟩
  | restored stage free done late change =>
    have silent : deployment.announces .proceed = [] := by
      rw [announces, stage]
      rfl
    rw [silent, List.append_nil]
    exact hasTold.restored free late
  | tellListener | tellSettings | changeFiles => exact idle rfl rfl rfl rfl
  | askToStop =>
    refine idle ?_ ?_ ?_ rfl <;> unfold Deployment.askToStop <;> split <;> rfl
  | leave stage =>
    have silent : deployment.announces .proceed = [] := by
      rw [announces, stage]
      rfl
    obtain ⟨subscriptions, left⟩ := deployment.leave_eq _ _
    refine idle ?_ ?_ ?_ silent
    · rw [left]
    · rw [left]
    · simp only [left, Deployment.late, Listener.announcing?_leave stage, stage]
      rfl
  | subscribe stage | read stage | rollBack stage | giveUp stage | restoreFailed stage | relaunch stage
  | closed stage =>
    refine idle rfl rfl ?_ ?_
    · simp only [Deployment.late, stage]
      rfl
    · rw [announces, stage]
      rfl
  | start stage | started stage | startFailed stage | restarted stage | restartFailed stage | replace stage
  | launch stage | close stage | quit stage | serverFailed stage =>
    refine idle rfl rfl ?_ rfl
    simp only [Deployment.late, stage]
    rfl
  | ignore => exact idle rfl rfl rfl rfl

/-- Before a modification only changes of lower versions are announced, however many operations there are and whoever
runs them.  So only a restoration can come too late. -/
theorem modifications_are_announced_in_order (follow : Event Config → Settings → Settings)
    (initial reached : Deployment Config Settings) (moves : List (Move Config))
    (free : initial.store.withheld = []) (quiet : initial.late = [])
    (run : initial.run follow moves = some reached) :
    (initial.announced follow moves).Pairwise fun earlier later =>
      later.isLate = false → earlier.Precedes later := by
  have hasTold : ∃ bound, reached.HasTold (initial.announced follow moves) bound := by
    refine run_history (fun moves deployment => ∃ bound, deployment.HasTold (initial.announced follow moves) bound)
      ?_ ?_ run
    · refine ⟨initial.store.slots.version, .nil, ?_, ?_, Nat.le_refl _, ?_, ?_⟩
      · rw [quiet]
        exact List.forall_mem_nil _
      · rw [quiet]
        exact List.forall_mem_nil _
      · rw [free]
        exact List.forall_mem_nil _
      · rw [free]
        exact .nil
    · intro moves deployment move next earlier step held
      obtain ⟨bound, hasTold⟩ := held
      rw [announced, seen_concat earlier]
      exact step.hasTold hasTold
  obtain ⟨bound, hasTold⟩ := hasTold
  exact hasTold.ordered

theorem restoration_is_overtaken :
    let initial : Deployment Bytes Unit :=
      ⟨⟨⟨⟨.ok, .ok⟩, ⟨"a"⟩⟩, .initial [49], .empty, []⟩, .fresh [], .built "main", (), [], [], []⟩
    let moves : List (Move Bytes) := [.operate (.set [50]), .operate .restore, .operate (.set [51]), .announce 0]
    (initial.run (fun _ settings => settings) moves).isSome = true ∧
      (transitions (initial.announced (fun _ settings => settings) moves)).map (fun change => change.version) =
        [1, 3, 2] := by
  decide +kernel

end Deployment

end LiveService
