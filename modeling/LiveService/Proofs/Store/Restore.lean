import Mathlib.Data.List.Induction
import LiveService.Proofs.Files.Content
import LiveService.Proofs.Store.History

/-!
What a restore brings back.  The value that a store keeps is the one that the last commit displaced, as long
as nothing but operations without effect has followed; a restore uses it up.
-/

namespace LiveService

variable {Config : Type}

namespace Backing

variable {backing : Backing Config} {slots : Slots Config}

theorem restore_of_none (files : FileSystem) (nothing : slots.previous = none) :
    backing.restore slots files = .quiet (.error .restoreUnavailable) slots files := by
  simp only [restore, nothing]

theorem restore_of_written {files written : FileSystem} {former : Config} {content : Bytes}
    (there : slots.previous = some former) (encoded : backing.format.encode former = .ok content)
    (wrote : ConfigFile.write files backing.path content = (written, .ok ())) :
    let restored := backing.restore slots files
    restored.result = .ok .done ∧ restored.slots.current = former ∧
      restored.slots.version = slots.version + 1 ∧ restored.slots.previous = none ∧
      restored.files = written := by
  simp [restore, there, persist, encoded, writeContent, wrote, Slots.rollBack]

theorem Turn.previous_cases [BEq Config] {files : FileSystem} {command : Command Config}
    {outcome : Outcome Config} (turn : backing.Turn slots files command outcome) :
    (outcome.slots.version = slots.version ∧ outcome.slots.previous = slots.previous) ∨
      ((command ≠ .restore ∧ outcome.slots.version = slots.version + 1) ∧
        outcome.slots.previous = some slots.current) ∨
      (command = .restore ∧ slots.previous ≠ none ∧ outcome.slots.version = slots.version + 1 ∧
        outcome.slots.previous = none) := by
  cases turn with
  | set accepts =>
    refine .inr (.inl ⟨⟨?_, rfl⟩, rfl⟩)
    rintro rfl
    cases accepts
  | refreshed => exact .inr (.inl ⟨⟨nofun, rfl⟩, rfl⟩)
  | applied finds =>
    refine .inr (.inl ⟨⟨?_, rfl⟩, rfl⟩)
    rintro rfl
    cases finds
  | restored there => exact .inr (.inr ⟨rfl, by simp [there], rfl, rfl⟩)
  | _ => exact .inl ⟨rfl, rfl⟩

end Backing

namespace History

variable [BEq Config]

def Commits (backing : Backing Config) (history : History Config) (command : Command Config) : Prop :=
  command ≠ .restore ∧
    (history.after backing (.operate command)).slots.version = history.slots.version + 1

/-- The last change of the version was a commit, and it displaced `former`. -/
def LastDisplaced (backing : Backing Config) (start : History Config)
    (incidents : List (Incident Config)) (former : Config) : Prop :=
  ∃ earlier command later, incidents = earlier ++ .operate command :: later ∧
    let before := start.run backing earlier
    let committed := before.after backing (.operate command)
    before.Commits backing command ∧ before.slots.current = former ∧
      (committed.run backing later).slots.version = committed.slots.version

def CommitsNothing (backing : Backing Config) (start : History Config)
    (incidents : List (Incident Config)) : Prop :=
  ∀ earlier command later, incidents = earlier ++ .operate command :: later →
    ¬(start.run backing earlier).Commits backing command

variable {backing : Backing Config} {start : History Config} {incidents : List (Incident Config)}

theorem after_cases (backing : Backing Config) (history : History Config) (command : Command Config) :
    let next := history.after backing (.operate command)
    (next.slots.version = history.slots.version ∧ next.slots.previous = history.slots.previous) ∨
      (history.Commits backing command ∧ next.slots.previous = some history.slots.current) ∨
      (command = .restore ∧ history.slots.previous ≠ none ∧
        next.slots.version = history.slots.version + 1 ∧ next.slots.previous = none) :=
  (backing.perform_turn history.slots history.files command).previous_cases

theorem version_le_after (backing : Backing Config) (history : History Config)
    (incident : Incident Config) :
    history.slots.version ≤ (history.after backing incident).slots.version := by
  cases incident with
  | changeFiles files => exact Nat.le_refl _
  | operate command =>
    rcases after_cases backing history command with
      ⟨version, _⟩ | ⟨⟨_, version⟩, _⟩ | ⟨_, _, version, _⟩ <;> omega

theorem version_le_run (backing : Backing Config) (incidents : List (Incident Config)) :
    ∀ history : History Config, history.slots.version ≤ (history.run backing incidents).slots.version := by
  induction incidents with
  | nil =>
    intro history
    exact Nat.le_refl _
  | cons incident rest ih =>
    intro history
    exact Nat.le_trans (version_le_after backing history incident) (ih _)

theorem lastDisplaced_concat {incident : Incident Config} {former : Config} :
    LastDisplaced backing start (incidents ++ [incident]) former ↔
      (∃ command, incident = .operate command ∧
        (start.run backing incidents).Commits backing command ∧
        (start.run backing incidents).slots.current = former) ∨
      (((start.run backing incidents).after backing incident).slots.version =
          (start.run backing incidents).slots.version ∧
        LastDisplaced backing start incidents former) := by
  constructor
  · rintro ⟨earlier, command, later, split, commits, displaced, kept⟩
    rcases List.eq_nil_or_concat later with rfl | ⟨front, last, rfl⟩
    · obtain ⟨rfl, same⟩ := List.append_inj' split rfl
      exact .inl ⟨command, by simpa using same, commits, displaced⟩
    · have splitFront : incidents ++ [incident] = (earlier ++ .operate command :: front) ++ [last] := by
        simpa using split
      obtain ⟨rfl, same⟩ := List.append_inj' splitFront rfl
      have same : incident = last := by simpa using same
      subst same
      right
      rw [List.concat_eq_append, run_concat] at kept
      rw [run_append]
      -- The version rose with the commit, so it cannot have risen again after it.
      have upToLast := version_le_run backing front
        ((start.run backing earlier).after backing (.operate command))
      have atLast := version_le_after backing
        (((start.run backing earlier).after backing (.operate command)).run backing front) incident
      refine ⟨Nat.le_antisymm ?_ atLast, earlier, command, front, rfl, commits, displaced, ?_⟩
      · exact Nat.le_trans (Nat.le_of_eq kept) upToLast
      · exact Nat.le_antisymm (Nat.le_trans atLast (Nat.le_of_eq kept)) upToLast
  · rintro (⟨command, rfl, commits, displaced⟩ |
      ⟨kept, earlier, command, later, rfl, commits, displaced, before⟩)
    · exact ⟨incidents, command, [], rfl, commits, displaced, rfl⟩
    · refine ⟨earlier, command, later ++ [incident], by simp, commits, displaced, ?_⟩
      rw [run_append] at kept
      rw [run_concat]
      exact kept.trans before

/-- A store keeps just what the last commit displaced, unless a restore has used it up since. -/
theorem previous_eq_some_iff (opened : start.slots.previous = none) (former : Config) :
    (start.run backing incidents).slots.previous = some former ↔
      LastDisplaced backing start incidents former := by
  induction incidents using List.reverseRecOn with
  | nil =>
    constructor
    · intro there
      exact absurd (opened.symm.trans there) (by simp)
    · rintro ⟨earlier, command, later, split, _⟩
      simp at split
  | append_singleton incidents incident ih =>
    rw [run_concat, lastDisplaced_concat]
    cases incident with
    | changeFiles files =>
      constructor
      · intro there
        exact .inr ⟨rfl, ih.mp there⟩
      · rintro (⟨command, isOperation, _⟩ | ⟨_, displaced⟩)
        · cases isOperation
        · exact ih.mpr displaced
    | operate command =>
      rcases after_cases backing (start.run backing incidents) command with
        ⟨version, previous⟩ | ⟨commits, previous⟩ | ⟨isRestore, _, version, previous⟩
      · rw [previous, ih]
        constructor
        · exact fun displaced => .inr ⟨version, displaced⟩
        · rintro (⟨other, same, commits, _⟩ | ⟨_, displaced⟩)
          · cases same
            have := commits.2
            omega
          · exact displaced
      · rw [previous]
        constructor
        · intro there
          exact .inl ⟨command, rfl, commits, Option.some.inj there⟩
        · rintro (⟨other, same, _, displaced⟩ | ⟨version, _⟩)
          · rw [displaced]
          · have := commits.2
            omega
      · rw [previous]
        constructor
        · intro there
          simp at there
        · rintro (⟨other, same, commits, _⟩ | ⟨kept, _⟩)
          · cases same
            exact absurd isRestore commits.1
          · omega

theorem previous_eq_none_of_commitsNothing (nothing : start.slots.previous = none)
    (noCommit : CommitsNothing backing start incidents) :
    (start.run backing incidents).slots.previous = none := by
  induction incidents using List.reverseRecOn with
  | nil => exact nothing
  | append_singleton incidents incident ih =>
    have stillNothing := ih fun earlier command later split =>
      noCommit earlier command (later ++ [incident]) (by simp [split])
    rw [run_concat]
    cases incident with
    | changeFiles files => exact stillNothing
    | operate command =>
      rcases after_cases backing (start.run backing incidents) command with
        ⟨_, previous⟩ | ⟨commits, _⟩ | ⟨_, there, _⟩
      · rw [previous, stillNothing]
      · exact absurd commits (noCommit incidents command [] rfl)
      · exact absurd stillNothing there

/-- A store keeps what the last commit displaced, however many operations without effect follow.  A restore
puts exactly that into effect and writes it to the file, and until the next commit no other restore does
anything. -/
theorem restore_undoes_last_commit (backing : Backing Config) (defaults : Config)
    (files : FileSystem) (notifier : Except NotifierError Unit) (slots : Slots Config)
    (loaded : (backing.load defaults files notifier).2 = .ok slots)
    (incidents : List (Incident Config)) :
    let start := History.opened slots (backing.load defaults files notifier).1
    let history := start.run backing incidents
    (∀ former, history.slots.previous = some former ↔
      LastDisplaced backing start incidents former) ∧
    ∀ former content, LastDisplaced backing start incidents former →
      backing.format.encode former = .ok content →
      (ConfigFile.write history.files backing.path content).2 = .ok () →
      let restored := history.after backing (.operate .restore)
      (backing.perform history.slots history.files .restore).result = .ok .done ∧
        restored.slots.current = former ∧ restored.slots.version = history.slots.version + 1 ∧
        restored.files.Holds backing.path content ∧
        ∀ later, CommitsNothing backing restored later →
          let reached := restored.run backing later
          backing.perform reached.slots reached.files .restore =
            .quiet (.error .restoreUnavailable) reached.slots reached.files := by
  intro start history
  obtain ⟨config, rfl⟩ := Backing.load_initial loaded
  have displacedIff (former : Config) : history.slots.previous = some former ↔
      LastDisplaced backing start incidents former := previous_eq_some_iff rfl former
  refine ⟨displacedIff, ?_⟩
  intro former content displaced encoded succeeded restored
  have there : history.slots.previous = some former := (displacedIff former).mpr displaced
  have wrote : ConfigFile.write history.files backing.path content =
      ((ConfigFile.write history.files backing.path content).1, .ok ()) :=
    Prod.ext rfl succeeded
  obtain ⟨done, current, version, usedUp, filesAfter⟩ :=
    Backing.restore_of_written there encoded wrote
  have holds : restored.files.Holds backing.path content := by
    rw [show restored.files = (ConfigFile.write history.files backing.path content).1 from filesAfter]
    exact ConfigFile.write_holds wrote
  refine ⟨done, current, version, holds, ?_⟩
  intro later noCommit reached
  exact Backing.restore_of_none _ (previous_eq_none_of_commitsNothing usedUp noCommit)

theorem restore_undoes_last_commit_while_frozen :
    let backing : Backing Bytes := ⟨⟨.ok, .ok⟩, ⟨"a"⟩⟩
    let loaded := backing.load [1] (.fresh []) (.ok ())
    let start := History.opened (.initial [1]) loaded.1
    let changed := (FileSystem.fresh []).put ["a"] (some (.file [4]))
    let incidents : List (Incident Bytes) :=
      [.operate (.set [2]), .operate (.set [3]), .operate .freeze, .changeFiles changed,
        .operate .reload]
    let history := start.run backing incidents
    let restored := history.after backing (.operate .restore)
    let reached := restored.run backing [.operate .reload]
    loaded.2 = .ok (.initial [1]) ∧ history.slots.held = some [4] ∧
      LastDisplaced backing start incidents [2] ∧ history.slots.previous = some [2] ∧
      restored.slots.current = [2] ∧ restored.slots.version = 3 ∧
      restored.files.Holds ⟨"a"⟩ [2] ∧ CommitsNothing backing restored [.operate .reload] ∧
      backing.perform reached.slots reached.files .restore =
        .quiet (.error .restoreUnavailable) reached.slots reached.files := by
  have opened : (Backing.load ⟨⟨.ok, .ok⟩, ⟨"a"⟩⟩ [1] (.fresh []) (.ok ())).2 =
      .ok (.initial [1]) :=
    rfl
  intro backing loaded start changed incidents history restored reached
  have displaced : LastDisplaced backing start incidents [2] := by
    refine ⟨[.operate (.set [2])], .set [3],
      [.operate .freeze, .changeFiles changed, .operate .reload], rfl, ⟨nofun, ?_⟩, ?_, ?_⟩
    · decide +kernel
    · decide +kernel
    · decide +kernel
  have noCommit : CommitsNothing backing restored [.operate .reload] := by
    intro earlier command later split commits
    rcases List.cons_eq_append_iff.mp split with ⟨rfl, same⟩ | ⟨front, rfl, same⟩
    · cases same
      exact absurd commits.2 (by decide +kernel)
    · simp at same
  have undoes :=
    restore_undoes_last_commit backing [1] (.fresh []) (.ok ()) (.initial [1]) opened incidents
  obtain ⟨_, current, version, holds, again⟩ :=
    undoes.2 [2] [2] displaced rfl (by decide +kernel)
  exact ⟨opened, by decide +kernel, displaced, (undoes.1 [2]).mpr displaced, current,
    by decide +kernel, holds, noCommit, again [.operate .reload] noCommit⟩

end History

end LiveService
