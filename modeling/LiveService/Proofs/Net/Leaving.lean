import LiveService.Proofs.Net.Act

/-!
How a listener takes its leave.  Once its end is certain, a few steps are left to it.  It can always take the next of
them, whatever others do in between, and what it will tell in the end is fixed.
-/

namespace LiveService

variable {Config Settings : Type}

def Verdict.left : Verdict → Nat
  | .refused _ => 3
  | .resolved _ => 4

def Stage.isLeaving : Stage Config → Bool
  | .closing none => true
  | .leaving _ _ => true
  | .ended => true
  | _ => false

def ownSteps (moves : List (Move Config)) : Nat :=
  moves.countP fun move => !move.isOutside

theorem ownSteps_concat (moves : List (Move Config)) (move : Move Config) :
    ownSteps (moves ++ [move]) = ownSteps moves + if move.isOutside then 0 else 1 := by
  rw [ownSteps, List.countP_append, List.countP_singleton]
  cases move.isOutside <;> rfl

namespace Listener

/-- The listener will tell of the verdict with the last of so many steps. -/
inductive IsLeaving (listener : Listener Config) : Verdict → Nat → Prop where
  | closing (stage : listener.stage = .closing none) :
      IsLeaving listener (.resolved (.ok ())) (listener.subscriptions.length + 5)
  | unsubscribing {verdict : Verdict} (stage : listener.stage = .leaving .unsubscribing verdict) :
      IsLeaving listener verdict (listener.subscriptions.length + verdict.left)
  | withdrawing {verdict : Verdict} (stage : listener.stage = .leaving .withdrawing verdict) :
      IsLeaving listener verdict 3
  | terminating {verdict : Verdict} (stage : listener.stage = .leaving .terminating verdict) :
      IsLeaving listener verdict 2
  | reporting {verdict : Verdict} (stage : listener.stage = .leaving .reporting verdict)
      (terminated : listener.state = .terminated) : IsLeaving listener verdict 1
  | ended {verdict : Verdict} (stage : listener.stage = .ended)
      (terminated : listener.state = .terminated) (told : listener.completion = verdict.completion) :
      IsLeaving listener verdict 0

variable {listener : Listener Config} {verdict : Verdict} {left : Nat}

theorem IsLeaving.stage_cases (leaving : listener.IsLeaving verdict left) :
    listener.stage = .closing none ∧ verdict = .resolved (.ok ()) ∨
      (∃ farewell, listener.stage = .leaving farewell verdict) ∨
        left = 0 ∧ listener.stage = .ended := by
  cases leaving with
  | closing stage => exact .inl ⟨stage, rfl⟩
  | unsubscribing stage | withdrawing stage | terminating stage | reporting stage =>
    exact .inr (.inl ⟨_, stage⟩)
  | ended stage => exact .inr (.inr ⟨rfl, stage⟩)

theorem IsLeaving.isLeaving (leaving : listener.IsLeaving verdict left) :
    listener.stage.isLeaving = true := by
  rcases leaving.stage_cases with ⟨stage, _⟩ | ⟨farewell, stage⟩ | ⟨_, stage⟩
  all_goals rw [stage]; rfl

theorem IsLeaving.ended_iff (leaving : listener.IsLeaving verdict left) :
    listener.stage = .ended ↔ left = 0 := by
  cases leaving with
  | closing stage | withdrawing stage | terminating stage | reporting stage => simp [stage]
  | unsubscribing stage => cases verdict <;> simp [stage, Verdict.left]
  | ended stage => simp [stage]

theorem IsLeaving.left_le (leaving : listener.IsLeaving verdict left)
    (few : listener.subscriptions.length ≤ 2) : left ≤ 7 := by
  cases leaving with
  | closing => exact Nat.add_le_add_right few 5
  | unsubscribing =>
    have rest : verdict.left ≤ 4 := by
      cases verdict <;> simp [Verdict.left]
    omega
  | withdrawing | terminating | reporting | ended => decide

theorem IsLeaving.completion (leaving : listener.IsLeaving verdict left)
    (ended : listener.stage = .ended) : listener.completion = verdict.completion := by
  cases leaving with
  | closing stage | unsubscribing stage | withdrawing stage | terminating stage | reporting stage =>
    cases ended.symm.trans stage
  | ended _ _ told => exact told

theorem IsLeaving.congr {next : Listener Config} (leaving : listener.IsLeaving verdict left)
    (stage : next.stage = listener.stage) (state : next.state = listener.state)
    (subscriptions : next.subscriptions = listener.subscriptions)
    (completion : next.completion = listener.completion) : next.IsLeaving verdict left := by
  cases leaving with
  | closing closing =>
    rw [← subscriptions]
    exact .closing (stage.trans closing)
  | unsubscribing leaving =>
    rw [← subscriptions]
    exact .unsubscribing (stage.trans leaving)
  | withdrawing leaving => exact .withdrawing (stage.trans leaving)
  | terminating leaving => exact .terminating (stage.trans leaving)
  | reporting leaving terminated => exact .reporting (stage.trans leaving) (state.trans terminated)
  | ended ended terminated told =>
    exact .ended (stage.trans ended) (state.trans terminated) (completion.trans told)

theorem IsLeaving.closed (leaving : listener.IsLeaving verdict left)
    (stage : listener.stage = .closing none) :
    ∃ fewer, left = fewer + 1 ∧ (listener.closed none).IsLeaving verdict fewer := by
  cases leaving with
  | closing =>
    refine ⟨listener.subscriptions.length + 4, rfl, ?_⟩
    rw [← listener.enter_subscriptions .idle]
    exact .unsubscribing rfl
  | unsubscribing other | withdrawing other | terminating other | reporting other | ended other =>
    cases other.symm.trans stage

theorem IsLeaving.leave {farewell : Farewell} (leaving : listener.IsLeaving verdict left)
    (stage : listener.stage = .leaving farewell verdict) :
    ∃ fewer, left = fewer + 1 ∧ (listener.leave verdict farewell).IsLeaving verdict fewer := by
  cases leaving with
  | closing other | ended other => cases other.symm.trans stage
  | unsubscribing other =>
    cases other.symm.trans stage
    cases subscriptions : listener.subscriptions with
    | cons id rest =>
      have next : (listener.leave verdict .unsubscribing).IsLeaving verdict (rest.length + verdict.left) := by
        simp only [Listener.leave, subscriptions]
        exact .unsubscribing other
      exact ⟨rest.length + verdict.left, Nat.add_right_comm _ _ _, next⟩
    | nil =>
      simp only [Listener.leave, subscriptions]
      cases verdict with
      | refused error => exact ⟨2, rfl, .terminating rfl⟩
      | resolved outcome => exact ⟨3, rfl, .withdrawing rfl⟩
  | withdrawing other =>
    cases other.symm.trans stage
    exact ⟨2, rfl, .terminating rfl⟩
  | terminating other =>
    cases other.symm.trans stage
    exact ⟨1, rfl, .reporting rfl (listener.enter_state _)⟩
  | reporting other terminated =>
    cases other.symm.trans stage
    exact ⟨0, rfl, .ended rfl terminated rfl⟩

end Listener

namespace Deployment

variable {deployment : Deployment Config Settings} {move : Move Config} {verdict : Verdict} {left : Nat}

theorem Act.isLeaving {store : ConfigStore Config Follower} {listener : Listener Config}
    (act : deployment.Act move store listener) (leaving : deployment.listener.IsLeaving verdict left) :
    ∃ fewer, listener.IsLeaving verdict fewer ∧ fewer + (if move.isOutside then 0 else 1) = left := by
  have certain := leaving.isLeaving
  cases act with
  | outside outside =>
    rw [if_pos outside]
    exact ⟨left, leaving.congr rfl rfl rfl rfl, rfl⟩
  | closed stage =>
    obtain ⟨fewer, rfl, nearer⟩ := leaving.closed stage
    exact ⟨fewer, nearer, rfl⟩
  | leave stage =>
    rcases leaving.stage_cases with ⟨other, _⟩ | ⟨farewell, same⟩ | ⟨_, other⟩
    · cases other.symm.trans stage
    · cases same.symm.trans stage
      obtain ⟨fewer, rfl, nearer⟩ := leaving.leave stage
      exact ⟨fewer, nearer, rfl⟩
    · cases other.symm.trans stage
  | giveUp stage =>
    rcases stage with stage | stage
    · simp [stage, Stage.isLeaving] at certain
    · simp [stage, Stage.isLeaving] at certain
  | start stage | subscribe stage | read stage | rollBack stage | restored stage | resume stage
  | relaunch stage | served stage | notServed stage | ignore stage | replace stage | launch stage
  | close stage | quit stage | serverFailed stage =>
    simp [stage, Stage.isLeaving] at certain

variable [BEq Config] {follow : Event Config → Settings → Settings}
  {initial reached : Deployment Config Settings} {moves : List (Move Config)}

theorem run_isLeaving (run : initial.run follow moves = some reached)
    (leaving : initial.listener.IsLeaving verdict left) :
    ∃ fewer, reached.listener.IsLeaving verdict fewer ∧ fewer + ownSteps moves = left := by
  refine run_history (fun moves deployment => ∃ fewer, deployment.listener.IsLeaving verdict fewer ∧
    fewer + ownSteps moves = left) ⟨left, leaving, rfl⟩ ?_ run
  intro moves deployment move next earlier step held
  obtain ⟨before, leaving, counted⟩ := held
  obtain ⟨fewer, nearer, taken⟩ := step.act.isLeaving leaving
  refine ⟨fewer, nearer, ?_⟩
  rw [ownSteps_concat]
  omega

theorem exists_proceed_of_isLeaving (leaving : deployment.listener.IsLeaving verdict left)
    (going : deployment.listener.stage ≠ .ended) : ∃ next, deployment.proceed = some next := by
  rcases leaving.stage_cases with ⟨stage, _⟩ | ⟨farewell, stage⟩ | ⟨_, ended⟩
  · exact ⟨{ deployment with listener := deployment.listener.closed none }, by simp only [proceed, stage]⟩
  · exact ⟨_, proceed_of_leaving stage⟩
  · exact absurd ended going

/-- So many steps are left to the listener, whatever others do in between.  It ends with the last of them and with this
answer, and until then it can take another. -/
def EndsAfter (follow : Event Config → Settings → Settings) (deployment : Deployment Config Settings)
    (left : Nat) (completion : Completion) : Prop :=
  ∀ moves reached, deployment.run follow moves = some reached →
    ownSteps moves ≤ left ∧ (reached.listener.stage = .ended ↔ ownSteps moves = left) ∧
      (reached.listener.stage = .ended → reached.listener.completion = completion) ∧
      (reached.listener.stage ≠ .ended → ∃ next, reached.proceed = some next)

theorem endsAfter_of_isLeaving (follow : Event Config → Settings → Settings)
    (leaving : deployment.listener.IsLeaving verdict left) :
    deployment.EndsAfter follow left verdict.completion := by
  intro moves reached run
  obtain ⟨fewer, nearer, counted⟩ := run_isLeaving run leaving
  refine ⟨by omega, ?_, nearer.completion, exists_proceed_of_isLeaving nearer⟩
  rw [nearer.ended_iff]
  omega

theorem EndsAfter.exists_run {completion : Completion} (ends : deployment.EndsAfter follow left completion) :
    ∃ final, deployment.run follow (List.replicate left .proceed) = some final ∧
      final.listener.stage = .ended ∧ final.listener.completion = completion := by
  have own (steps : Nat) : ownSteps (List.replicate steps (.proceed : Move Config)) = steps := by
    rw [ownSteps, List.countP_replicate]
    exact if_pos rfl
  have goesOn (steps : Nat) (few : steps ≤ left) :
      ∃ reached, deployment.run follow (List.replicate steps .proceed) = some reached := by
    induction steps with
    | zero => exact ⟨deployment, rfl⟩
    | succ steps ih =>
      obtain ⟨between, run⟩ := ih (Nat.le_of_succ_le few)
      obtain ⟨_, ended, _, further⟩ := ends _ _ run
      rw [own] at ended
      obtain ⟨next, proceeded⟩ := further fun last => Nat.ne_of_lt few (ended.mp last)
      have moved : between.move follow .proceed = some next := proceeded
      refine ⟨next, ?_⟩
      rw [List.replicate_succ', run_append, run]
      exact run_cons moved []
  obtain ⟨final, run⟩ := goesOn left (Nat.le_refl left)
  obtain ⟨_, ended, told, _⟩ := ends _ _ run
  have last := ended.mpr (own left)
  exact ⟨final, run, last, told last⟩

end Deployment

end LiveService
