import LiveService.Proofs.Store.Effect

/-!
Histories of a store.  However operations and changes of the files follow each other, the versions are
numbered without gap or repetition, each has one value, and what is announced and counted agrees with
them.
-/

namespace LiveService

variable {Config : Type}

inductive Incident (Config : Type) where
  | operate (command : Command Config)
  | changeFiles (files : FileSystem)

/-- A store with all that it has announced and counted so far.  `effective` are the values that have been
in effect, each with its version. -/
structure History (Config : Type) where
  slots : Slots Config
  files : FileSystem
  announced : List (Event Config)
  counts : List Count
  effective : List (Nat × Config)

namespace History

def opened (slots : Slots Config) (files : FileSystem) : History Config :=
  ⟨slots, files, [], [], [(slots.version, slots.current)]⟩

def record (history : History Config) (outcome : Outcome Config) : History Config where
  slots := outcome.slots
  files := outcome.files
  announced := history.announced ++ outcome.announced
  counts := history.counts ++ outcome.counts
  effective := history.effective ++ [(outcome.slots.version, outcome.slots.current)]

def after [BEq Config] (backing : Backing Config) (history : History Config) :
    Incident Config → History Config
  | .operate command => history.record (backing.perform history.slots history.files command)
  | .changeFiles files => { history with files := files }

def run [BEq Config] (backing : Backing Config) (history : History Config)
    (incidents : List (Incident Config)) : History Config :=
  incidents.foldl (after backing) history

theorem run_append [BEq Config] (backing : Backing Config) (history : History Config)
    (first second : List (Incident Config)) :
    history.run backing (first ++ second) = (history.run backing first).run backing second :=
  List.foldl_append

theorem run_concat [BEq Config] (backing : Backing Config) (history : History Config)
    (incidents : List (Incident Config)) (incident : Incident Config) :
    history.run backing (incidents ++ [incident]) =
      (history.run backing incidents).after backing incident :=
  run_append backing history incidents [incident]

theorem run_keeps [BEq Config] {backing : Backing Config} {incidents : List (Incident Config)}
    (kept : History Config → Prop)
    (step : ∀ reached, ∀ incident ∈ incidents, kept reached → kept (reached.after backing incident))
    {history : History Config} (start : kept history) : kept (history.run backing incidents) :=
  List.foldlRecOn incidents (after backing) start fun reached holds incident present =>
    step reached incident present holds

end History

def transitions (events : List (Event Config)) : List (Transition Config) :=
  events.filterMap Event.transition?

theorem transitions_append (first second : List (Event Config)) :
    transitions (first ++ second) = transitions first ++ transitions second :=
  List.filterMap_append

theorem transitions_eq_nil {events : List (Event Config)}
    (untold : ∀ event ∈ events, event.transition? = none) : transitions events = [] :=
  List.filterMap_eq_nil_iff.mpr untold

def Count.changes (counts : List Count) : Nat :=
  counts.count (.commit .api) + counts.count (.commit .file) + counts.count (.commit .refresh) +
    counts.count .restore

theorem Count.changes_append (first second : List Count) :
    changes (first ++ second) = changes first + changes second := by
  simp only [changes, List.count_append]
  omega

theorem Count.changes_commit (source : Source) : changes [.commit source] = 1 := by
  cases source <;> rfl

/-- The version, the announcements and the counts move together, by one or not at all. -/
theorem Effect.moves_together {slots : Slots Config} {outcome : Outcome Config}
    (effect : Effect slots outcome) :
    (outcome.slots.version = slots.version ∧ outcome.slots.current = slots.current ∧
      transitions outcome.announced = [] ∧ Count.changes outcome.counts = 0) ∨
    (outcome.slots.version = slots.version + 1 ∧
      transitions outcome.announced =
        [⟨outcome.slots.version, slots.current, outcome.slots.current⟩] ∧
      Count.changes outcome.counts = 1) := by
  cases effect with
  | kept version current _ untold lateEvents counts =>
    left
    refine ⟨version, current, ?_, ?_⟩
    · rw [Outcome.announced, lateEvents, List.append_nil]
      exact transitions_eq_nil untold
    · rcases counts with counts | counts <;> rw [counts] <;> rfl
  | committed source version _ events lateEvents counts =>
    right
    refine ⟨version, ?_, ?_⟩
    · rw [Outcome.announced, events, lateEvents]
      rfl
    · rw [counts]
      exact Count.changes_commit source
  | restored _ version _ events lateEvents counts =>
    right
    refine ⟨version, ?_, ?_⟩
    · rw [Outcome.announced, events, lateEvents]
      rfl
    · rw [counts]
      rfl

structure History.IsNumbered (history : History Config) : Prop where
  told : (transitions history.announced).length = history.slots.version
  toldAt : ∀ (index : Nat) (transition : Transition Config),
    (transitions history.announced)[index]? = some transition →
      transition.version = index + 1 ∧ (index, transition.former) ∈ history.effective ∧
        (index + 1, transition.latter) ∈ history.effective
  now : (history.slots.version, history.slots.current) ∈ history.effective
  bounded : ∀ version config, (version, config) ∈ history.effective →
    version ≤ history.slots.version
  single : ∀ version first second, (version, first) ∈ history.effective →
    (version, second) ∈ history.effective → first = second
  counted : Count.changes history.counts = history.slots.version

namespace History.IsNumbered

variable {history : History Config}

theorem opened (config : Config) (files : FileSystem) :
    (History.opened (.initial config) files).IsNumbered where
  told := rfl
  toldAt index transition found := by simp [History.opened, transitions] at found
  now := by simp [History.opened]
  bounded version value member := by
    simp only [History.opened, List.mem_singleton, Prod.mk.injEq] at member
    exact Nat.le_of_eq member.1
  single version first second memberFirst memberSecond := by
    simp only [History.opened, List.mem_singleton, Prod.mk.injEq] at memberFirst memberSecond
    rw [memberFirst.2, memberSecond.2]
  counted := rfl

theorem record_kept {outcome : Outcome Config} (numbered : history.IsNumbered)
    (version : outcome.slots.version = history.slots.version)
    (current : outcome.slots.current = history.slots.current)
    (told : transitions outcome.announced = []) (counted : Count.changes outcome.counts = 0) :
    (history.record outcome).IsNumbered := by
  have transitionsSame : transitions (history.record outcome).announced =
      transitions history.announced := by
    simp only [History.record, transitions_append, told, List.append_nil]
  -- The entry that is added to `effective` is there already.
  have member : ∀ entry, entry ∈ (history.record outcome).effective ↔
      entry ∈ history.effective := by
    intro entry
    simp only [History.record, version, current, List.mem_append, List.mem_singleton]
    constructor
    · rintro (member | rfl)
      · exact member
      · exact numbered.now
    · exact Or.inl
  constructor
  · rw [transitionsSame, numbered.told]
    exact version.symm
  · intro index transition found
    rw [transitionsSame] at found
    simpa only [member] using numbered.toldAt index transition found
  · rw [member]
    simpa only [History.record, version, current] using numbered.now
  · intro other config held
    rw [member] at held
    simpa only [History.record, version] using numbered.bounded other config held
  · intro other first second heldFirst heldSecond
    rw [member] at heldFirst heldSecond
    exact numbered.single other first second heldFirst heldSecond
  · simp only [History.record, Count.changes_append, counted, numbered.counted, version]
    rfl

theorem record_changed {outcome : Outcome Config} (numbered : history.IsNumbered)
    (version : outcome.slots.version = history.slots.version + 1)
    (told : transitions outcome.announced =
      [⟨outcome.slots.version, history.slots.current, outcome.slots.current⟩])
    (counted : Count.changes outcome.counts = 1) : (history.record outcome).IsNumbered := by
  have transitionsLonger : transitions (history.record outcome).announced =
      transitions history.announced ++
        [⟨outcome.slots.version, history.slots.current, outcome.slots.current⟩] := by
    simp only [History.record, transitions_append, told]
  have member : ∀ entry, entry ∈ (history.record outcome).effective ↔
      entry ∈ history.effective ∨
        entry = (history.slots.version + 1, outcome.slots.current) := by
    intro entry
    simp only [History.record, version, List.mem_append, List.mem_singleton]
  have newer : ∀ other config, (other, config) ∈ history.effective →
      other ≠ history.slots.version + 1 := by
    intro other config held equal
    have := numbered.bounded other config held
    omega
  constructor
  · rw [transitionsLonger, List.length_append, numbered.told]
    exact version.symm
  · intro index transition found
    rw [transitionsLonger, List.getElem?_append] at found
    split at found
    · obtain ⟨place, former, latter⟩ := numbered.toldAt index transition found
      exact ⟨place, (member _).mpr (.inl former), (member _).mpr (.inl latter)⟩
    · rename_i last
      rw [numbered.told] at found last
      have here : index = history.slots.version := by
        have inside := (List.getElem?_eq_some_iff.mp found).1
        simp only [List.length_singleton] at inside
        omega
      subst here
      simp only [Nat.sub_self, List.getElem?_cons_zero, Option.some.injEq] at found
      subst found
      exact ⟨version, (member _).mpr (.inl numbered.now), (member _).mpr (.inr rfl)⟩
  · rw [member]
    exact .inr (by simp only [History.record, version])
  · intro other config held
    simp only [History.record, version]
    rcases (member _).mp held with held | held
    · have := numbered.bounded other config held
      omega
    · simp only [Prod.mk.injEq] at held
      omega
  · intro other first second heldFirst heldSecond
    rcases (member _).mp heldFirst with heldFirst | heldFirst <;>
      rcases (member _).mp heldSecond with heldSecond | heldSecond
    · exact numbered.single other first second heldFirst heldSecond
    · simp only [Prod.mk.injEq] at heldSecond
      exact absurd heldSecond.1 (newer other first heldFirst)
    · simp only [Prod.mk.injEq] at heldFirst
      exact absurd heldFirst.1 (newer other second heldSecond)
    · simp only [Prod.mk.injEq] at heldFirst heldSecond
      rw [heldFirst.2, heldSecond.2]
  · simp only [History.record, Count.changes_append, counted, numbered.counted, version]

theorem record {outcome : Outcome Config} (numbered : history.IsNumbered)
    (effect : Effect history.slots outcome) : (history.record outcome).IsNumbered := by
  rcases effect.moves_together with ⟨version, current, told, counted⟩ | ⟨version, told, counted⟩
  · exact numbered.record_kept version current told counted
  · exact numbered.record_changed version told counted

theorem run [BEq Config] (backing : Backing Config) (incidents : List (Incident Config))
    (numbered : history.IsNumbered) : (history.run backing incidents).IsNumbered := by
  refine History.run_keeps History.IsNumbered ?_ numbered
  intro reached incident _ numbered
  cases incident with
  | operate command => exact numbered.record (backing.perform_effect _ _ command)
  | changeFiles files => exact { numbered with }

end History.IsNumbered

theorem Backing.load_initial {backing : Backing Config} {defaults : Config} {files : FileSystem}
    {notifier : Except NotifierError Unit} {slots : Slots Config}
    (loaded : (backing.load defaults files notifier).2 = .ok slots) :
    ∃ config, slots = .initial config := by
  cases notifier with
  | error error =>
    simp only [load] at loaded
    split at loaded
    · split at loaded <;> simp at loaded
    · split at loaded
      · simp at loaded
      · split at loaded <;> simp at loaded
  | ok _ =>
    simp only [load] at loaded
    split at loaded
    · split at loaded <;> try simp at loaded
      exact ⟨_, loaded.symm⟩
    · split at loaded
      · simp at loaded
      · split at loaded <;> try simp at loaded
        exact ⟨_, loaded.symm⟩

/-- From the opening of a store on, each operation raises the version by one with one announced change, or
keeps it with none.  The changes are numbered from one on, each leads from the value of the version
before to that of its own version, and as many are counted. -/
theorem History.versions_consecutive [BEq Config] (backing : Backing Config) (defaults : Config)
    (files : FileSystem) (notifier : Except NotifierError Unit) (slots : Slots Config)
    (loaded : (backing.load defaults files notifier).2 = .ok slots)
    (incidents : List (Incident Config)) :
    let start := History.opened slots (backing.load defaults files notifier).1
    let history := start.run backing incidents
    let told := transitions history.announced
    (∀ command, let outcome := backing.perform history.slots history.files command
      (outcome.slots.version = history.slots.version ∧ transitions outcome.announced = []) ∨
      (outcome.slots.version = history.slots.version + 1 ∧
        ∃ transition, transitions outcome.announced = [transition])) ∧
      told.length = history.slots.version ∧
      (∀ (index : Nat) (transition : Transition Config), told[index]? = some transition →
        transition.version = index + 1 ∧ (index, transition.former) ∈ history.effective ∧
          (index + 1, transition.latter) ∈ history.effective) ∧
      (∀ version first second, (version, first) ∈ history.effective →
        (version, second) ∈ history.effective → first = second) ∧
      history.counts.count (.commit .api) + history.counts.count (.commit .file) +
        history.counts.count (.commit .refresh) + history.counts.count .restore =
          history.slots.version := by
  intro start history told
  obtain ⟨config, rfl⟩ := Backing.load_initial loaded
  have numbered : history.IsNumbered :=
    IsNumbered.run backing incidents (IsNumbered.opened config _)
  refine ⟨?_, numbered.told, numbered.toldAt, numbered.single, numbered.counted⟩
  intro command outcome
  have effect : Effect history.slots outcome := backing.perform_effect _ _ command
  rcases effect.moves_together with ⟨version, _, told, _⟩ | ⟨version, told, _⟩
  · exact .inl ⟨version, told⟩
  · exact .inr ⟨version, _, told⟩

theorem History.versions_consecutive_of_four :
    let backing : Backing Bytes := ⟨⟨.ok, .ok⟩, ⟨"a"⟩⟩
    let loaded := backing.load [1] (.fresh []) (.ok ())
    let start := History.opened (.initial [1]) loaded.1
    let changed := (FileSystem.fresh []).put ["a"] (some (.file [4]))
    let history := start.run backing
      [.operate (.set [2]), .operate (.set [3]), .changeFiles changed, .operate .reload,
        .operate .restore]
    loaded.2 = .ok (.initial [1]) ∧
      transitions history.announced =
        [⟨1, [1], [2]⟩, ⟨2, [2], [3]⟩, ⟨3, [3], [4]⟩, ⟨4, [4], [3]⟩] ∧
      (transitions history.announced).length = history.slots.version := by
  refine ⟨rfl, rfl, ?_⟩
  exact (History.versions_consecutive ⟨⟨.ok, .ok⟩, ⟨"a"⟩⟩ [1] (.fresh []) (.ok ()) _ rfl _).2.1

end LiveService
