import LiveService.Proofs.Net.Leaving

/-!
How a listener takes a failure.  It brings back what the last commit displaced, whichever launch it was
that failed: a commit that overtakes a failing launch is undone in its place, and after a restore that
overtakes one there is no way back.
-/

namespace LiveService

variable {Config : Type}

theorem Backing.restore_of_persist {backing : Backing Config} {slots after : Slots Config}
    {files written : FileSystem} {former : Config} (there : slots.previous = some former)
    (saved : backing.persist slots files former = (written, .ok after)) :
    let restored := backing.restore slots files
    restored.result = .ok .done ∧ restored.slots.version = slots.version + 1 ∧
      restored.slots.current = former ∧
      restored.lateEvents = [.restored (slots.version + 1) former slots.current] := by
  have same := Backing.persist_slots saved
  subst same
  simp [Backing.restore, there, saved, Slots.rollBack]

namespace Deployment

variable {Settings : Type} [BEq Config] {follow : Event Config → Settings → Settings}
  {deployment : Deployment Config Settings} {origin : Origin} {error : ListenerError}

theorem failed_rollsBack {former : Config} {written : FileSystem} {after : Slots Config}
    (stage : deployment.listener.stage = .failed origin error)
    (free : deployment.store.withheld = [])
    (there : deployment.store.slots.previous = some former)
    (saved : deployment.store.backing.persist deployment.store.slots deployment.files former =
      (written, .ok after)) :
    ∃ next, deployment.run follow [.proceed, .proceed] = some next ∧
      next.store.slots.version = deployment.store.slots.version + 1 ∧
      next.store.slots.current = former ∧
      next.listener.stage =
        .announcing origin
          (.restored (deployment.store.slots.version + 1) former deployment.store.slots.current) := by
  obtain ⟨done, version, current, late⟩ := Backing.restore_of_persist there saved
  have isFree : deployment.store.isFree = true := List.isEmpty_iff.mpr free
  have way : deployment.store.slots.canRestore = true := by simp [Slots.canRestore, there]
  let rolling : Deployment Config Settings :=
    { deployment with
      listener := { deployment.listener with stage := .rollingBack origin error } }
  have checked : deployment.move follow .proceed = some rolling := by
    simp [move, proceed, stage, isFree, way, rolling]
  let event : Event Config :=
    .restored (deployment.store.slots.version + 1) former deployment.store.slots.current
  let rolled : Deployment Config Settings :=
    { rolling.settle (deployment.store.backing.restore deployment.store.slots deployment.files) with
      listener := { rolling.listener with stage := .announcing origin event } }
  have rolledBack : rolling.move follow .proceed = some rolled := by
    simp only [move, proceed, rolling, isFree, if_true, done, late]
    rfl
  refine ⟨rolled, ?_, version, current, rfl⟩
  rw [run_cons checked, run_cons rolledBack]
  rfl

theorem failed_ends (follow : Event Config → Settings → Settings)
    (stage : deployment.listener.stage = .failed origin error) (free : deployment.store.withheld = [])
    (nothing : deployment.store.slots.previous = none) :
    ∃ next left, deployment.run follow [.proceed] = some next ∧
      next.EndsAfter follow left (origin.verdict error).completion := by
  have isFree : deployment.store.isFree = true := List.isEmpty_iff.mpr free
  have noWay : deployment.store.slots.canRestore = false := by simp [Slots.canRestore, nothing]
  let leaving : Deployment Config Settings :=
    { deployment with
      listener := { deployment.listener with stage := .leaving .unsubscribing (origin.verdict error) } }
  have gaveUp : deployment.move follow .proceed = some leaving := by
    simp [move, proceed, stage, isFree, noWay, leaving]
  have certain : leaving.listener.IsLeaving (origin.verdict error) _ := .unsubscribing rfl
  exact ⟨leaving, _, run_cons gaveUp [], endsAfter_of_isLeaving follow certain⟩

def overtaken (deployment : Deployment Config Settings) (command : Command Config) (origin : Origin)
    (error : ListenerError) : Deployment Config Settings :=
  let operated := (deployment.operate command).1
  let counted :=
    match origin with
    | .start => operated
    | .supervisor => operated.count (.restart operated.listener.name false)
  { counted with listener := { operated.listener with stage := .failed origin error } }

theorem overtaken_stage (deployment : Deployment Config Settings) (command : Command Config)
    (origin : Origin) (error : ListenerError) :
    (deployment.overtaken command origin error).listener.stage = .failed origin error := by
  cases origin <;> rfl

theorem overtaken_store (deployment : Deployment Config Settings) (command : Command Config)
    (origin : Origin) (error : ListenerError) :
    (deployment.overtaken command origin error).store =
      { deployment.store with
        slots := (deployment.store.backing.perform deployment.store.slots deployment.files
          command).slots } := by
  cases origin <;> rfl

theorem overtaken_withheld (command : Command Config) (free : deployment.store.withheld = []) :
    (deployment.overtaken command origin error).store.withheld = [] := by
  rw [overtaken_store]
  exact free

theorem run_overtaken {version : Nat} {config : Config} (command : Command Config)
    (stage : deployment.listener.stage = .launching origin version config)
    (free : deployment.store.withheld = []) (rest : List (Move Config)) :
    deployment.run follow (.operate command :: .launched (.error error) :: rest) =
      (deployment.overtaken command origin error).run follow rest := by
  have isFree : deployment.store.isFree = true := List.isEmpty_iff.mpr free
  have operated : deployment.move follow (.operate command) =
      some (deployment.operate command).1 := by
    simp [move, isFree]
  have stageStill : (deployment.operate command).1.listener.stage =
      .launching origin version config :=
    stage
  have failed : (deployment.operate command).1.move follow (.launched (.error error)) =
      some (deployment.overtaken command origin error) := by
    cases origin <;> simp [move, launched, stageStill, overtaken]
  rw [run_cons operated, run_cons failed]

/-- A commit that overtakes a failing launch is undone, and the value that could not be launched is in
effect again. -/
theorem overtaking_commit_is_undone {command : Command Config} {source : Source}
    {written : FileSystem} {after : Slots Config}
    (stage : deployment.listener.stage =
      .launching origin deployment.store.slots.version deployment.store.slots.current)
    (free : deployment.store.withheld = [])
    (committed : (deployment.store.backing.perform deployment.store.slots deployment.files
      command).counts = [.commit source])
    (saved :
      let overtaken := deployment.overtaken command origin error
      overtaken.store.backing.persist overtaken.store.slots overtaken.files
        deployment.store.slots.current = (written, .ok after)) :
    ∃ next,
      deployment.run follow [.operate command, .launched (.error error), .proceed, .proceed] =
        some next ∧
      next.store.slots.version = deployment.store.slots.version + 2 ∧
      next.store.slots.current = deployment.store.slots.current := by
  have effect := deployment.store.backing.perform_effect deployment.store.slots deployment.files command
  have store := deployment.overtaken_store command origin error
  cases effect with
  | kept _ _ _ _ _ counts => simp [committed] at counts
  | restored _ _ _ _ _ counts => simp [committed] at counts
  | committed _ version previous =>
    have there : (deployment.overtaken command origin error).store.slots.previous =
        some deployment.store.slots.current := by
      rw [store]
      exact previous
    obtain ⟨next, run, nextVersion, nextCurrent, _⟩ :=
      failed_rollsBack (deployment.overtaken_stage command origin error)
        (deployment.overtaken_withheld command free) there saved
    rw [run_overtaken command stage free]
    refine ⟨next, run, ?_, nextCurrent⟩
    rw [nextVersion, store, version]

example :
    let initial : Deployment Bytes Unit :=
      ⟨⟨⟨⟨.ok, .ok⟩, ⟨"a"⟩⟩, .initial [1], .empty, []⟩, .fresh [], .built "main", (), [], [], []⟩
    ((initial.run (fun _ settings => settings)
        [.start, .proceed, .proceed, .operate (.set [2]),
          .launched (.error (.addressNotConfigured "main")), .proceed, .proceed]).map fun reached =>
      (reached.store.slots.version, reached.store.slots.current)) = some (2, [1]) := by
  cbv

/-- A restore that overtakes a failing launch leaves no way back, and the listener ends although the value
in effect was never tried. -/
theorem overtaking_restore_ends_listener {command : Command Config} {version : Nat} {config : Config}
    (stage : deployment.listener.stage = .launching origin version config)
    (free : deployment.store.withheld = [])
    (restored : (deployment.store.backing.perform deployment.store.slots deployment.files
      command).counts = [.restore]) :
    ∃ next left,
      deployment.run follow [.operate command, .launched (.error error), .proceed] = some next ∧
        next.EndsAfter follow left (origin.verdict error).completion := by
  have effect := deployment.store.backing.perform_effect deployment.store.slots deployment.files command
  cases effect with
  | kept _ _ _ _ _ counts => simp [restored] at counts
  | committed _ _ _ _ _ counts => simp [restored] at counts
  | restored _ _ previous =>
    have nothing : (deployment.overtaken command origin error).store.slots.previous = none := by
      rw [overtaken_store]
      exact previous
    rw [run_overtaken command stage free]
    exact failed_ends follow (deployment.overtaken_stage command origin error)
      (deployment.overtaken_withheld command free) nothing

end Deployment

end LiveService
