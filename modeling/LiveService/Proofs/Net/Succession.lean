import LiveService.Proofs.Net.Appearance

/-!
Which snapshots a listener launches.  Each is newer than those before, although versions are compared only while a
server is up: without one, the listener got where it is by a restore, which has raised the version.
-/

namespace LiveService

namespace Listener

variable {Config : Type} {listener next : Listener Config} {slots after : Slots Config}

def LaunchedBefore (listener : Listener Config) (version : Nat) : Prop :=
  ∀ launch ∈ listener.launches, launch.1 < version

/-- A snapshot that is launched from here is newer than those before. -/
def IsReady (listener : Listener Config) (slots : Slots Config) : Prop :=
  match listener.stage with
  | .fresh => listener.LaunchedBefore slots.version
  | .subscribing _ => listener.LaunchedBefore slots.version
  | .reading => listener.LaunchedBefore slots.version
  | .announcing _ _ => listener.LaunchedBefore slots.version
  | .waiting => listener.server = none → listener.LaunchedBefore slots.version
  | .closing (some (version, _)) => listener.LaunchedBefore version ∧ version ≤ slots.version
  | _ => True

structure Succeeds (listener : Listener Config) (slots : Slots Config) : Prop where
  ordered : listener.launches.Pairwise fun later earlier => earlier.1 < later.1
  past : ∀ launch ∈ listener.launches, launch.1 ≤ listener.version
  known : listener.version ≤ slots.version
  ready : listener.IsReady slots

def snapshots (listener : Listener Config) : List (Nat × Config) :=
  match listener.stage with
  | .closing (some snapshot) => snapshot :: listener.launches
  | _ => listener.launches

theorem mem_snapshots {launch : Nat × Config} (launched : launch ∈ listener.launches) :
    launch ∈ listener.snapshots := by
  unfold snapshots
  split
  · exact List.mem_cons_of_mem _ launched
  · exact launched

theorem LaunchedBefore.mono {version newer : Nat} (before : listener.LaunchedBefore version)
    (le : version ≤ newer) : listener.LaunchedBefore newer := by
  intro launch launched
  exact Nat.lt_of_lt_of_le (before launch launched) le

theorem LaunchedBefore.congr {version : Nat} (before : listener.LaunchedBefore version)
    (launches : next.launches = listener.launches) : next.LaunchedBefore version := by
  intro launch launched
  rw [launches] at launched
  exact before launch launched

theorem IsReady.mono (ready : listener.IsReady slots) (later : slots.version ≤ after.version) :
    listener.IsReady after := by
  unfold IsReady at ready ⊢
  cases stage : listener.stage with
  | fresh | subscribing | reading | announcing =>
    rw [stage] at ready
    exact LaunchedBefore.mono ready later
  | waiting =>
    rw [stage] at ready
    intro down
    exact (ready down).mono later
  | closing target =>
    rw [stage] at ready
    cases target with
    | none => trivial
    | some snapshot => exact ⟨ready.1, ready.2.trans later⟩
  | launching | failed | rollingBack | leaving | ended => trivial

theorem leave_isReady {farewell : Farewell} {verdict : Verdict}
    (stage : listener.stage = .leaving farewell verdict) (slots : Slots Config) :
    (listener.leave verdict farewell).IsReady slots := by
  unfold IsReady
  rcases leave_cases stage with ⟨⟨next, leaving⟩, _⟩ | ⟨ended, _⟩
  · rw [leaving]
    trivial
  · rw [ended]
    trivial

theorem leave_snapshots {farewell : Farewell} {verdict : Verdict}
    (stage : listener.stage = .leaving farewell verdict) :
    (listener.leave verdict farewell).snapshots = listener.launches := by
  unfold snapshots
  rcases leave_cases stage with ⟨⟨next, leaving⟩, _⟩ | ⟨ended, _⟩
  · rw [leaving]
    exact leave_launches _ _ _
  · rw [ended]
    exact leave_launches _ _ _

theorem Succeeds.launchedBefore {version : Nat} (succeeds : listener.Succeeds slots)
    (newer : listener.version < version) : listener.LaunchedBefore version := by
  intro launch launched
  exact Nat.lt_of_le_of_lt (succeeds.past launch launched) newer

theorem Succeeds.stay (succeeds : listener.Succeeds slots) (launches : next.launches = listener.launches)
    (version : next.version = listener.version) (later : slots.version ≤ after.version)
    (ready : next.IsReady after) : next.Succeeds after where
  ordered := launches ▸ succeeds.ordered
  past := by
    rw [launches, version]
    exact succeeds.past
  known := version ▸ succeeds.known.trans later
  ready := ready

theorem Succeeds.launch {version : Nat} (succeeds : listener.Succeeds slots)
    (launches : next.launches = listener.launches) (before : listener.LaunchedBefore version)
    (known : version ≤ slots.version) (origin : Origin) (config : Config) :
    (next.launchOf origin version config).Succeeds slots := by
  have recorded : (next.launchOf origin version config).launches =
      (version, config) :: listener.launches :=
    congrArg (List.cons (version, config)) launches
  refine ⟨?_, ?_, known, trivial⟩
  · rw [recorded]
    exact List.pairwise_cons.mpr ⟨before, succeeds.ordered⟩
  · rw [recorded]
    intro launch launched
    rcases List.mem_cons.mp launched with rfl | earlier
    · exact Nat.le_refl _
    · exact Nat.le_of_lt (before launch earlier)

end Listener

namespace Deployment

variable {Config Settings : Type} {deployment : Deployment Config Settings} {move : Move Config}
  {store : ConfigStore Config Follower} {listener : Listener Config}

theorem Act.succeeds (act : deployment.Act move store listener)
    (succeeds : deployment.listener.Succeeds deployment.store.slots) : listener.Succeeds store.slots := by
  have later := act.advances.version_le
  have ready := succeeds.ready
  unfold Listener.IsReady at ready
  cases act with
  | outside => exact succeeds.stay rfl rfl later (succeeds.ready.mono later)
  | start stage =>
    rw [stage] at ready
    exact succeeds.stay rfl rfl later ready
  | subscribe stage =>
    rw [stage] at ready
    exact succeeds.stay rfl rfl later ready
  | read stage =>
    rw [stage] at ready
    exact succeeds.launch rfl ready (Nat.le_refl _) .start _
  | rollBack stage => exact succeeds.stay rfl rfl later trivial
  | giveUp stage refused => exact succeeds.stay rfl rfl later trivial
  | restored stage newer =>
    -- The launch that has failed was of the version before the restore, or of an older one.
    have older := Nat.lt_of_le_of_lt succeeds.known newer
    exact succeeds.stay rfl rfl later (succeeds.launchedBefore older)
  | @resume origin event stage =>
    rw [stage] at ready
    cases origin with
    | start => exact succeeds.stay rfl rfl later ready
    | supervisor =>
      have launches := deployment.listener.enter_launches .idle
      refine succeeds.stay launches (deployment.listener.enter_version .idle) later ?_
      intro _
      exact Listener.LaunchedBefore.congr ready launches
  | @relaunch version config stage =>
    rw [stage] at ready
    obtain ⟨before, known⟩ := ready
    refine succeeds.launch ?_ before known .supervisor config
    exact deployment.listener.enter_launches .idle
  | closed stage =>
    exact succeeds.stay (Listener.enter_launches _ _) (Listener.enter_version _ _) later trivial
  | leave stage =>
    exact succeeds.stay (Listener.leave_launches _ _ _) (Listener.leave_version _ _ _) later
      (Listener.leave_isReady stage _)
  | served stage =>
    refine succeeds.stay (Listener.enter_launches _ _) (Listener.enter_version _ _) later ?_
    intro down
    cases down
  | notServed stage => exact succeeds.stay rfl rfl later trivial
  | ignore stage serving => exact succeeds.stay rfl rfl later succeeds.ready
  | replace stage serving different =>
    -- The version that is served was in effect once, so one that differs from it is newer.
    have older := Nat.lt_of_le_of_ne succeeds.known different.symm
    have launches := Listener.enter_launches { deployment.listener with reload := false } .stopping
    refine succeeds.stay launches (Listener.enter_version _ _) later ⟨?_, Nat.le_refl _⟩
    exact (succeeds.launchedBefore older).congr launches
  | launch stage down =>
    rw [stage] at ready
    refine succeeds.launch ?_ (ready down) (Nat.le_refl _) .supervisor _
    rfl
  | close stage asked serving =>
    exact succeeds.stay (Listener.enter_launches _ _) (Listener.enter_version _ _) later trivial
  | quit stage asked down => exact succeeds.stay rfl rfl later trivial
  | serverFailed stage serving => exact succeeds.stay rfl rfl later trivial

theorem Act.snapshot_cases (act : deployment.Act move store listener) {snapshot : Nat × Config}
    (taken : snapshot ∈ listener.snapshots) :
    snapshot ∈ deployment.listener.snapshots ∨
      snapshot = (deployment.store.slots.version, deployment.store.slots.current) := by
  have of_launches {next : Listener Config} (launches : next.launches = deployment.listener.launches)
      (launched : snapshot ∈ next.launches) : snapshot ∈ deployment.listener.snapshots :=
    Listener.mem_snapshots (launches ▸ launched)
  cases act with
  | outside | ignore => exact .inl taken
  | start | subscribe | rollBack | giveUp | restored | notServed | quit | serverFailed =>
    exact .inl (Listener.mem_snapshots taken)
  | served | close | closed =>
    exact .inl (of_launches (Listener.enter_launches _ _) taken)
  | leave stage =>
    rw [Listener.leave_snapshots stage] at taken
    exact .inl (Listener.mem_snapshots taken)
  | read | launch =>
    rcases List.mem_cons.mp taken with new | earlier
    · exact .inr new
    · exact .inl (Listener.mem_snapshots earlier)
  | @resume origin event stage =>
    cases origin with
    | start => exact .inl (Listener.mem_snapshots taken)
    | supervisor => exact .inl (of_launches (deployment.listener.enter_launches .idle) taken)
  | relaunch stage =>
    rcases List.mem_cons.mp taken with new | earlier
    · refine .inl ?_
      rw [Listener.snapshots, stage, new]
      exact List.mem_cons_self
    · exact .inl (of_launches (deployment.listener.enter_launches .idle) earlier)
  | replace =>
    rcases List.mem_cons.mp taken with new | earlier
    · exact .inr new
    · have launches := Listener.enter_launches { deployment.listener with reload := false } .stopping
      exact .inl (of_launches launches earlier)

theorem Act.launches_cases (act : deployment.Act move store listener) :
    listener.launches = deployment.listener.launches ∨
      ∃ origin version config, listener.stage = .launching origin version config ∧
        listener.launches = (version, config) :: deployment.listener.launches := by
  cases act with
  | outside | start | subscribe | rollBack | giveUp | restored | notServed | ignore | quit
  | serverFailed => exact .inl rfl
  | served | close | closed | replace => exact .inl (Listener.enter_launches _ _)
  | leave => exact .inl (Listener.leave_launches _ _ _)
  | read | launch => exact .inr ⟨_, _, _, rfl, rfl⟩
  | @resume origin event stage =>
    cases origin with
    | start => exact .inl rfl
    | supervisor => exact .inl (deployment.listener.enter_launches .idle)
  | @relaunch version config stage =>
    refine .inr ⟨.supervisor, version, config, rfl, ?_⟩
    exact congrArg (List.cons (version, config)) (deployment.listener.enter_launches .idle)

variable [BEq Config] {follow : Event Config → Settings → Settings}
  {initial reached between : Deployment Config Settings} {moves : List (Move Config)}

structure WasInEffect (follow : Event Config → Settings → Settings)
    (initial : Deployment Config Settings) (moves : List (Move Config)) (version : Nat)
    (config : Config) : Prop where
  once : ∃ between, initial.ComesBy follow moves between ∧ between.store.slots.version = version ∧
    between.store.slots.current = config
  only : ∀ between, initial.ComesBy follow moves between → between.store.slots.version = version →
    between.store.slots.current = config

theorem ComesBy.wasInEffect (comesBy : initial.ComesBy follow moves between) :
    initial.WasInEffect follow moves between.store.slots.version between.store.slots.current where
  once := ⟨between, comesBy, rfl, rfl⟩
  only := by
    intro other comesByOther version
    exact comesByOther.current_eq comesBy version

theorem WasInEffect.concat {version : Nat} {config : Config}
    (held : initial.WasInEffect follow moves version config) (move : Move Config) :
    initial.WasInEffect follow (moves ++ [move]) version config := by
  obtain ⟨between, comesBy, rfl, rfl⟩ := held.once
  exact (comesBy.concat move).wasInEffect

def serversUp (follow : Event Config → Settings → Settings) :
    Deployment Config Settings → List (Move Config) → Int
  | _, [] => 0
  | deployment, move :: rest =>
    deployment.upBy move +
      match deployment.move follow move with
      | none => 0
      | some next => serversUp follow next rest

theorem serversUp_concat (run : initial.run follow moves = some reached) (move : Move Config) :
    initial.serversUp follow (moves ++ [move]) =
      initial.serversUp follow moves + reached.upBy move := by
  induction moves generalizing initial with
  | nil =>
    cases Option.some.inj run
    simp only [List.nil_append, serversUp, Int.zero_add]
    cases reached.move follow move with
    | none => simp only [Int.add_zero]
    | some next => simp only [Int.add_zero]
  | cons first rest ih =>
    obtain ⟨next, moved, run⟩ := Option.bind_eq_some_iff.mp run
    simp only [List.cons_append, serversUp, moved]
    rw [ih run, Int.add_assoc]

theorem run_serversUp {name : String} (built : initial.listener = .built name)
    (run : initial.run follow moves = some reached) :
    initial.serversUp follow moves = if reached.listener.server.isSome then 1 else 0 := by
  have first : initial.serversUp follow [] = if initial.listener.server.isSome then 1 else 0 := by
    rw [built]
    rfl
  refine run_history (fun moves deployment =>
    initial.serversUp follow moves = if deployment.listener.server.isSome then 1 else 0) first ?_ run
  intro moves deployment move next earlier step held
  rw [serversUp_concat earlier, held]
  rcases step.act.server_cases (run_isCoherent built earlier) with
    ⟨same, _, stays⟩ | ⟨server, up, down, rfl⟩ | ⟨server, up, down, _, goes⟩
  · rw [same, stays, Int.add_zero]
  · rw [up, down]
    rfl
  · rw [up, down, goes]
    rfl

theorem run_succeeds {name : String} (built : initial.listener = .built name)
    (run : initial.run follow moves = some reached) :
    reached.listener.Succeeds reached.store.slots := by
  have first : initial.listener.Succeeds initial.store.slots := by
    rw [built]
    exact ⟨.nil, nofun, Nat.zero_le _, nofun⟩
  exact run_induction (fun step held => step.act.succeeds held) run first

theorem run_wasInEffect {name : String} (built : initial.listener = .built name)
    (run : initial.run follow moves = some reached) :
    ∀ snapshot ∈ reached.listener.snapshots,
      initial.WasInEffect follow moves snapshot.1 snapshot.2 := by
  refine run_history (fun moves deployment => ∀ snapshot ∈ deployment.listener.snapshots,
    initial.WasInEffect follow moves snapshot.1 snapshot.2) ?_ ?_ run
  · intro snapshot taken
    rw [built] at taken
    cases taken
  · intro moves deployment move next earlier step held snapshot taken
    rcases step.act.snapshot_cases taken with before | rfl
    · exact (held snapshot before).concat move
    · exact ((ComesBy.last earlier).concat move).wasInEffect

/-- The launches of a listener, from its start to its end, are of ever newer versions, each with the value that the
store held at its version.  At most one server is up at a time, and none when a launch begins. -/
theorem launches_succeed_each_other (follow : Event Config → Settings → Settings)
    (initial reached : Deployment Config Settings) (moves : List (Move Config)) (name : String)
    (built : initial.listener = .built name) (run : initial.run follow moves = some reached) :
    reached.listener.launches.Pairwise (fun later earlier => earlier.1 < later.1) ∧
      (∀ launch ∈ reached.listener.launches,
        initial.WasInEffect follow moves launch.1 launch.2) ∧
      (initial.serversUp follow moves = 0 ∨ initial.serversUp follow moves = 1) ∧
      ∀ move next, reached.move follow move = some next →
        next.listener.launches = reached.listener.launches ∨
          ∃ launch, next.listener.launches = launch :: reached.listener.launches ∧
            initial.serversUp follow (moves ++ [move]) = 0 := by
  refine ⟨(run_succeeds built run).ordered, ?_, ?_, ?_⟩
  · intro launch launched
    exact run_wasInEffect built run launch (Listener.mem_snapshots launched)
  · rw [run_serversUp built run]
    split
    · exact .inr rfl
    · exact .inl rfl
  · intro move next moved
    have step := step_of_move moved
    rcases step.act.launches_cases with same | ⟨origin, version, config, stage, launches⟩
    · exact .inl same
    · refine .inr ⟨(version, config), launches, ?_⟩
      have runNext : initial.run follow (moves ++ [move]) = some next := by
        rw [run_append, run, Option.bind_some, run_cons moved]
        rfl
      have coherent := run_isCoherent built runNext
      simp only [Listener.IsCoherent, stage] at coherent
      rw [run_serversUp built runNext, coherent.2.1]
      rfl

theorem launches_succeed_each_other_after_first_failure :
    let initial : Deployment Bytes Unit :=
      ⟨⟨⟨⟨.ok, .ok⟩, ⟨"a"⟩⟩, .initial [49], .empty, []⟩, .fresh [], .built "main", (), [], [], []⟩
    let address : SocketAddress := ⟨.v4 [127, 0, 0, 1], 8000⟩
    let moves : List (Move Bytes) :=
      [.start, .proceed, .proceed, .operate (.set [50]),
        .launched (.error (.addressNotConfigured "main")), .proceed, .proceed, .proceed, .proceed,
        .launched (.ok address), .deliver 0, .wake, .operate (.set [51]), .deliver 1, .wake, .proceed,
        .launched (.ok address)]
    ∃ reached, initial.run (fun _ settings => settings) moves = some reached ∧
      reached.listener.launches = [(3, [51]), (2, [49]), (0, [49])] ∧
      initial.WasInEffect (fun _ settings => settings) moves 2 [49] ∧
      initial.serversUp (fun _ settings => settings) moves = 1 := by
  intro initial address moves
  have facts : (initial.run (fun _ settings => settings) moves).map (fun reached =>
      reached.listener.launches) = some [(3, [51]), (2, [49]), (0, [49])] := by
    decide +kernel
  have up : initial.serversUp (fun _ settings => settings) moves = 1 := by decide +kernel
  obtain ⟨reached, run, launches⟩ := Option.map_eq_some_iff.mp facts
  obtain ⟨_, held, _, _⟩ := launches_succeed_each_other _ initial reached moves "main" rfl run
  refine ⟨reached, run, launches, ?_, up⟩
  exact held (2, [49]) (by rw [launches]; decide)

end Deployment

end LiveService
