import LiveService.Proofs.Net.Hearing
import LiveService.Service.Run

/-!
How a service begins, while others already run operations on its store.  The settings take over the configuration
that was read, and then hear of what has changed since; whether they miss anything is decided by when they subscribe.
-/

namespace LiveService

namespace Site

structure Meanwhile where
  reading : List (Move ServiceConfig) := []
  adopting : List (Move ServiceConfig) := []
  followingModified : List (Move ServiceConfig) := []
  followingRestored : List (Move ServiceConfig) := []
  building : List (Move ServiceConfig) := []
  outside : (reading ++ adopting ++ followingModified ++ followingRestored ++ building).all Move.isOutside = true :=
    by rfl

/-- A site at the moments of its start: as its configuration is read, once the settings have subscribed, and with
its listener built.  `heard` is what the settings have heard of until then. -/
structure Begun where
  read : Site
  followed : Site
  ready : Site
  heard : List (Event ServiceConfig)

def begin? (path : Path) (followsLevel : Bool) (files : FileSystem) (outside : FileSystem → Surroundings)
    (meanwhile : Meanwhile) : Option Begun := do
  let opened : Site ← (Site.open? path followsLevel files).2.toOption
  let read : Site ← opened.run Settings.follow meanwhile.reading
  let delayed : Site ← read.run Settings.follow meanwhile.adopting
  let adopted : Site ← delayed.adopt? read.store.slots.current
  let waited : Site ← adopted.run Settings.follow meanwhile.followingModified
  let half := waited.followModified
  let later : Site ← half.run Settings.follow meanwhile.followingRestored
  let followed := later.followRestored
  let unbuilt : Site ← followed.run Settings.follow meanwhile.building
  let heard :=
    half.heard Settings.follow meanwhile.followingRestored ++ followed.heard Settings.follow meanwhile.building
  return ⟨read, followed, (unbuilt.build (environment outside)).1, heard⟩

def registry : Subscriptions ServiceConfig Follower :=
  ((Subscriptions.empty.onModified .settings).2.onRestored .settings).2

def Begun.start (begun : Begun) : Transition ServiceConfig :=
  ⟨begun.read.store.slots.version, begun.read.store.slots.current, begun.read.store.slots.current⟩

def Begun.told (begun : Begun) (moves : List (Move ServiceConfig)) : List (Event ServiceConfig) :=
  begun.heard ++ begun.ready.heard Settings.follow moves

structure Begun.IsSound (begun : Begun) (followsLevel : Bool) (adopted : Settings) : Prop where
  adopts : Settings.adopt? ⟨followsLevel, none, none, []⟩ begun.start.latter = some adopted
  follows : begun.ready.Follows Settings.follow begun.start.version [begun.start] adopted begun.heard
  covered : begun.followed.store.slots.version ≤ begun.start.version →
    begun.ready.store.slots.IsCoveredBy begun.start.version
      ([begun.start] ++ transitions begun.heard ++ transitions begun.ready.underway)
  subscribed : begun.ready.store.subscriptions = registry
  built : ∃ name, begun.ready.listener = .built name

variable {path : Path} {followsLevel : Bool} {files : FileSystem} {outside : FileSystem → Surroundings}
  {opened site reached : Site} {meanwhile : Meanwhile} {begun : Begun} {moves : List (Move ServiceConfig)}
  {base : Nat} {past : List (Transition ServiceConfig)} {adopted : Settings}

theorem open?_isUnfollowed (opens : (Site.open? path followsLevel files).2.toOption = some opened) :
    opened.IsUnfollowed ∧ opened.underway = [] ∧ opened.settings = ⟨followsLevel, none, none, []⟩ := by
  unfold Site.open? ConfigStore.load at opens
  generalize Backing.load _ _ _ _ = loaded at opens
  obtain ⟨written, error | slots⟩ := loaded
  · cases opens
  · cases opens
    exact ⟨⟨rfl, rfl, rfl⟩, rfl, rfl⟩

theorem run_unfollowed (others : ∀ move ∈ moves, move.isOutside = true) (unfollowed : site.IsUnfollowed)
    (follows : site.Follows Settings.follow base past adopted [])
    (run : site.run Settings.follow moves = some reached) :
    reached.IsUnfollowed ∧ reached.Follows Settings.follow base past adopted [] := by
  obtain ⟨still, nothing⟩ := Deployment.run_isUnfollowed others unfollowed run
  have followsStill := follows.run run
  rw [nothing] at followsStill
  exact ⟨still, followsStill⟩

theorem isFollowed_of_registry (subscribed : site.store.subscriptions = registry) : site.IsFollowed := by
  intro event change
  rw [subscribed]
  cases event with
  | modified version previous current source => exact ⟨1, List.mem_cons_self⟩
  | restored version restored discarded => exact ⟨2, List.mem_cons_self⟩
  | canceled reason => exact absurd rfl change

theorem registry_isNumbered : registry.IsNumbered := by
  have nobody : (Subscriptions.empty : Subscriptions ServiceConfig Follower).IsBuilt := .empty
  exact ((nobody.onModified .settings).onRestored .settings).isNumbered

theorem run_isCoveredBy_of_outside (others : ∀ move ∈ moves, move.isOutside = true)
    (subscribed : site.store.subscriptions = registry)
    (run : site.run Settings.follow moves = some reached)
    (first : site.store.slots.IsCoveredBy base (past ++ transitions site.underway)) :
    reached.store.slots.IsCoveredBy base
      (past ++ transitions (site.heard Settings.follow moves) ++ transitions reached.underway) := by
  refine Deployment.run_isCoveredBy ?_ run first
  rintro between ⟨earlier, ⟨rest, within⟩, runEarlier⟩
  have outside (move : Move ServiceConfig) (member : move ∈ earlier) : move.isOutside = true :=
    others move (within ▸ List.mem_append_left rest member)
  exact isFollowed_of_registry ((Deployment.run_outside outside runEarlier).1.trans subscribed)

theorem build_eq (site : Site) (outside : FileSystem → Surroundings) :
    ∃ name, (site.build (environment outside)).1 = { site with listener := .built name } := by
  unfold Deployment.build
  split <;> exact ⟨_, rfl⟩

theorem begin?_isSound (begins : Site.begin? path followsLevel files outside meanwhile = some begun) :
    ∃ adopted, begun.IsSound followsLevel adopted := by
  simp only [begin?, Option.bind_eq_bind, Option.bind_eq_some_iff, Option.pure_def, Option.some.injEq] at begins
  obtain ⟨opened, opens, read, reads, delayed, delays, _, adopts, waited, waits, later, subscribes, unbuilt, builds,
    rfl⟩ := begins
  have others := meanwhile.outside
  simp only [List.all_append, Bool.and_eq_true, List.all_eq_true] at others
  obtain ⟨⟨⟨⟨reading, adopting⟩, followingModified⟩, followingRestored⟩, building⟩ := others
  -- Up to the reading, nothing has been heard and nothing was expected.
  obtain ⟨unfollowed, nothing, settings⟩ := open?_isUnfollowed opens
  have opening : opened.Follows Settings.follow 0 [] opened.settings [] := by
    refine ⟨rfl, ?_⟩
    rw [nothing]
    exact .nil _
  obtain ⟨unfollowed, untilRead⟩ := run_unfollowed reading unfollowed opening reads
  -- What is read counts as a change from here on.
  let start : Transition ServiceConfig :=
    ⟨read.store.slots.version, read.store.slots.current, read.store.slots.current⟩
  have fromRead : read.Follows Settings.follow start.version [start] read.settings [] :=
    ⟨rfl, untilRead.reached.read⟩
  obtain ⟨unfollowed, untilAdopted⟩ := run_unfollowed adopting unfollowed fromRead delays
  obtain ⟨adopted, applies, rfl⟩ := Option.map_eq_some_iff.mp adopts
  rw [untilAdopted.settings, List.foldl_nil, untilRead.settings, List.foldl_nil, settings] at applies
  have fromAdopted : Deployment.Follows { delayed with settings := adopted } Settings.follow start.version [start]
      adopted [] := ⟨rfl, untilAdopted.reached⟩
  have unfollowed : Deployment.IsUnfollowed { delayed with settings := adopted } :=
    ⟨unfollowed.subscriptions, unfollowed.calls, unfollowed.stage⟩
  obtain ⟨unfollowed, untilModified⟩ := run_unfollowed followingModified unfollowed fromAdopted waits
  -- From here on the settings hear of modifications, and then of restorations too.
  have fromModified : waited.followModified.Follows Settings.follow start.version [start] adopted [] :=
    ⟨untilModified.settings, untilModified.reached⟩
  have untilRestored := fromModified.run subscribes
  have fromRestored : later.followRestored.Follows Settings.follow start.version [start] adopted
      (waited.followModified.heard Settings.follow meanwhile.followingRestored) :=
    ⟨untilRestored.settings, untilRestored.reached⟩
  have untilBuilt := fromRestored.run builds
  obtain ⟨half, freshStill⟩ := Deployment.run_outside followingRestored subscribes
  have subscribed : later.followRestored.store.subscriptions = registry := by
    change (later.store.subscriptions.onRestored .settings).2 = registry
    rw [half]
    change ((waited.store.subscriptions.onModified .settings).2.onRestored .settings).2 = registry
    rw [unfollowed.subscriptions]
    rfl
  obtain ⟨whole, stage⟩ := Deployment.run_outside building builds
  have fresh : unbuilt.listener.stage = .fresh := stage.trans (freshStill.trans unfollowed.stage)
  obtain ⟨name, built⟩ := unbuilt.build_eq outside
  have underway : ({ unbuilt with listener := .built name } : Site).underway = unbuilt.underway := by
    simp only [Deployment.underway, fresh]
    rfl
  refine ⟨adopted, ⟨applies, ?_, ?_, ?_, ?_⟩⟩
  · rw [built]
    exact ⟨untilBuilt.settings, underway ▸ untilBuilt.reached⟩
  · intro undisturbed
    rw [built, underway, transitions_append, ← List.append_assoc]
    refine run_isCoveredBy_of_outside building subscribed builds ?_
    -- Nothing has changed since the reading, so nothing can be missing.
    intro version newer within
    exact absurd (Nat.lt_of_lt_of_le newer within) (Nat.not_lt_of_le undisturbed)
  · rw [built]
    exact whole.trans subscribed
  · exact ⟨name, by rw [built]⟩

/-- Once all that was announced has been delivered, what the settings have heard of leads from the value that was
read to that in effect, and if nothing has changed before they subscribed then nothing is missing. -/
theorem Begun.IsSound.run (sound : begun.IsSound followsLevel adopted)
    (undisturbed : begun.followed.store.slots.version ≤ begun.start.version)
    (run : begun.ready.run Settings.follow moves = some reached) (delivered : reached.underway = []) :
    reached.settings =
        (begun.told moves).foldl (fun settings event => settings.follow event) adopted ∧
      reached.store.slots.IsReachedBy begun.start.version (begun.start :: transitions (begun.told moves)) ∧
      reached.store.slots.IsCoveredBy begun.start.version (begun.start :: transitions (begun.told moves)) := by
  obtain ⟨name, built⟩ := sound.built
  have followed (between : Site) (comesBy : begun.ready.ComesBy Settings.follow moves between) :
      between.IsFollowed := by
    obtain ⟨earlier, _, runEarlier⟩ := comesBy
    exact Deployment.run_isFollowed built (sound.subscribed ▸ registry_isNumbered)
      (isFollowed_of_registry sound.subscribed) runEarlier
  have nothing : transitions reached.underway = [] := by
    rw [delivered]
    rfl
  have follows := sound.follows.run run
  have reachedBy := follows.reached
  have covered := Deployment.run_isCoveredBy followed run (sound.covered undisturbed)
  rw [nothing, List.append_nil] at reachedBy covered
  refine ⟨follows.settings, reachedBy, ?_⟩
  rw [told, transitions_append]
  exact covered

theorem exists_story {holds : Begun → Site → Prop} [∀ begun reached, Decidable (holds begun reached)]
    (story : ((Site.begin? path followsLevel files outside meanwhile).any fun begun =>
      (begun.ready.run Settings.follow moves).any fun reached => decide (holds begun reached)) = true) :
    ∃ begun reached, Site.begin? path followsLevel files outside meanwhile = some begun ∧
      begun.ready.run Settings.follow moves = some reached ∧ holds begun reached := by
  obtain ⟨begun, begins, story⟩ := (Option.any_eq_true _ _).mp story
  obtain ⟨reached, run, told⟩ := (Option.any_eq_true _ _).mp story
  exact ⟨begun, reached, begins, run, of_decide_eq_true told⟩

end Site

theorem Deployment.exists_run_of_mem_trailFor {Config Settings App : Type} [BEq Config]
    {environment : Environment Config Settings App} {limit : Nat} {deployment reached : Deployment Config Settings}
    (member : reached ∈ trailFor environment limit deployment) :
    ∃ moves, deployment.run environment.follow moves = some reached := by
  induction limit generalizing deployment with
  | zero => cases member
  | succ limit ih =>
    unfold trailFor at member
    split at member
    · cases member
    · rename_i next due
      obtain ⟨move, _, moved⟩ := Option.bind_eq_some_iff.mp due
      rcases List.mem_cons.mp member with rfl | later
      · exact ⟨[move], by rw [run_cons moved]; rfl⟩
      · obtain ⟨moves, run⟩ := ih later
        exact ⟨move :: moves, by rw [run_cons moved, run]⟩

namespace Service

variable {outside : FileSystem → Surroundings} {files : FileSystem} {journal : Journal} {site : Site}
  {watcher : Option FileWatcher} {options : Options} {service : Service}

theorem rest_runs (outside : FileSystem → Surroundings) (service : Service) :
    ∃ moves, service.site.run Settings.follow moves = some (service.rest outside).site := by
  have concluded (service : Service) : service.conclude.site = service.site := by
    unfold conclude
    split <;> rfl
  let trail := service.site.trail (Site.environment outside)
  have last : trail.getLastD service.site ∈ service.site :: trail := List.getLastD_mem_cons
  unfold rest
  rw [concluded]
  rcases List.mem_cons.mp last with same | member
  · exact ⟨[], congrArg some same.symm⟩
  · have runs : ∃ moves, service.site.run (Site.environment outside).follow moves =
        some (trail.getLastD service.site) := Deployment.exists_run_of_mem_trailFor member
    exact runs

theorem listen_runs (started : (listen outside files site watcher journal).result = .ok service) :
    ∃ moves, (site.build (Site.environment outside)).1.run Settings.follow moves = some service.site := by
  unfold listen at started
  split at started
  · cases started
  · rename_i built builds
    dsimp only at started
    split at started
    · cases started
    · rename_i ready starts
      have first : built.move Settings.follow .start = some ready := by
        simp only [Deployment.move, starts, Except.toOption]
      generalize Except.mapError _ _ = answer at started
      cases answer with
      | error error => cases started
      | ok _ =>
        cases started
        obtain ⟨moves, run⟩ := rest_runs outside ⟨ready, watcher, .start, _, none⟩
        refine ⟨.start :: moves, ?_⟩
        rw [builds, Deployment.run_cons first]
        exact run

theorem setUp_runs (started : (setUp outside files site watcher journal).result = .ok service) :
    ∃ adopted moves, site.adopt? site.store.slots.current = some adopted ∧
      (adopted.followModified.followRestored.build (Site.environment outside)).1.run Settings.follow moves =
        some service.site := by
  unfold setUp at started
  dsimp only at started
  split at started
  · cases started
  · rename_i adopted adopts
    split at started
    · cases started
    · obtain ⟨moves, run⟩ := listen_runs started
      exact ⟨adopted, moves, adopts, run⟩

theorem start_begins (started : (Service.start outside options journal files).result = .ok service) :
    ∃ begun moves, Site.begin? options.path (!journal.isFixed) files outside {} = some begun ∧
      begun.ready.run Settings.follow moves = some service.site := by
  have noted (condition : Bool) (remark : Remark) : (journal.noteWhen condition remark).isFixed = journal.isFixed := by
    unfold Journal.noteWhen Journal.note
    split
    · split <;> rfl
    · rfl
  unfold Service.start at started
  split at started
  · cases started
  · rename_i watcher watches
    dsimp only at started
    rw [noted] at started
    split at started
    · cases started
    · rename_i written site opens
      obtain ⟨adopted, moves, adopts, run⟩ := setUp_runs started
      refine ⟨⟨site, adopted.followModified.followRestored, _, []⟩, moves, ?_, run⟩
      simp [Site.begin?, opens, Except.toOption, Deployment.run, adopts, Deployment.heard, Deployment.seen]

end Service

end LiveService
