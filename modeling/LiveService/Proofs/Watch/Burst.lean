import LiveService.Watch.FileWatcher
import Mathlib.Data.List.Induction

/-!
The thread of a watcher takes wake-ups from a channel.  Others wake it at any time, also while it runs the callbacks;
what they send waits in the channel until it is taken.
-/

namespace LiveService

open FileWatcher

/-- `queued` wake-ups were sent and not taken yet.  `log` are the receipts, each with whether the callbacks ran on it. -/
structure WatcherThread where
  watcher : FileWatcher
  queued : Nat
  isOpen : Bool
  isRunning : Bool
  log : List (Receipt × Bool)

inductive Happening where
  | wake
  | hangUp
  | subscribe
  | receive (receipt : Receipt)
  | finish
  deriving DecidableEq

namespace WatcherThread

variable {thread next reached : WatcherThread} {happenings : List Happening} {happening : Happening}
  {receipt : Receipt}

def of (watcher : FileWatcher) : WatcherThread := ⟨watcher, 0, true, false, []⟩

def canReceive (thread : WatcherThread) : Receipt → Bool
  | .wake => thread.queued != 0
  | .quiet => thread.queued == 0 && thread.watcher.debouncer == .silence
  | .closed => thread.queued == 0 && !thread.isOpen

def isListening (thread : WatcherThread) : Bool := !thread.isRunning && thread.watcher.debouncer != .nothing

def take (thread : WatcherThread) (receipt : Receipt) : WatcherThread :=
  let (watcher, runs) := thread.watcher.receive receipt
  { thread with
    watcher := watcher
    queued := thread.queued - (receipt == .wake).toNat
    isRunning := runs
    log := thread.log ++ [(receipt, runs)] }

def after? (thread : WatcherThread) : Happening → Option WatcherThread
  | .wake => if thread.isOpen then some { thread with queued := thread.queued + 1 } else none
  | .hangUp => some { thread with isOpen := false }
  | .subscribe => some { thread with watcher := thread.watcher.subscribe }
  | .receive receipt =>
    if thread.isListening && thread.canReceive receipt then some (thread.take receipt) else none
  | .finish => if thread.isRunning then some { thread with isRunning := false } else none

def run (thread : WatcherThread) (happenings : List Happening) : Option WatcherThread :=
  happenings.foldlM after? thread

theorem run_append (thread : WatcherThread) (earlier later : List Happening) :
    thread.run (earlier ++ later) = (thread.run earlier).bind (run · later) :=
  List.foldlM_append

theorem run_cons (thread : WatcherThread) (happening : Happening) (later : List Happening) :
    thread.run (happening :: later) = (thread.after? happening).bind (run · later) :=
  rfl

theorem run_history (holds : List Happening → WatcherThread → Prop) (first : holds [] thread)
    (step : ∀ {earlier between happening next}, between.after? happening = some next →
      holds earlier between → holds (earlier ++ [happening]) next)
    (run : thread.run happenings = some reached) : holds happenings reached := by
  induction happenings using List.reverseRecOn generalizing reached with
  | nil =>
    cases Option.some.inj run
    exact first
  | append_singleton earlier happening ih =>
    rw [run_append] at run
    obtain ⟨between, runEarlier, last⟩ := Option.bind_eq_some_iff.mp run
    obtain ⟨next, done, rest⟩ := Option.bind_eq_some_iff.mp last
    cases Option.some.inj rest
    exact step done (ih runEarlier)

theorem after?_cases (done : thread.after? happening = some next) :
    (∃ receipt, happening = .receive receipt ∧ thread.isListening = true ∧
      thread.canReceive receipt = true ∧ next = thread.take receipt) ∨
    next.log = thread.log ∧ next.watcher.debouncer = thread.watcher.debouncer ∧
      next.queued = thread.queued + [happening].count .wake ∧
      (next.watcher.runs = thread.watcher.runs ∨ next.watcher.runs = thread.watcher.runs ++ [0]) := by
  cases happening with
  | receive receipt =>
    obtain ⟨possible, rfl⟩ := Option.ite_none_right_eq_some.mp done |>.imp_right Option.some.inj
    rw [Bool.and_eq_true] at possible
    exact .inl ⟨receipt, rfl, possible.1, possible.2, rfl⟩
  | wake =>
    obtain ⟨_, rfl⟩ := Option.ite_none_right_eq_some.mp done |>.imp_right Option.some.inj
    exact .inr ⟨rfl, rfl, rfl, .inl rfl⟩
  | finish =>
    obtain ⟨_, rfl⟩ := Option.ite_none_right_eq_some.mp done |>.imp_right Option.some.inj
    exact .inr ⟨rfl, rfl, rfl, .inl rfl⟩
  | hangUp =>
    cases done
    exact .inr ⟨rfl, rfl, rfl, .inl rfl⟩
  | subscribe =>
    cases done
    exact .inr ⟨rfl, rfl, rfl, .inr rfl⟩

def burst (wakeUps : Nat) : List (Receipt × Bool) := List.replicate wakeUps (.wake, false) ++ [(.quiet, true)]

def unsettled (wakeUps : Nat) : Debouncer → List (Receipt × Bool)
  | .nothing => List.replicate wakeUps (.wake, false) ++ [(.closed, false)]
  | .wakeUp | .silence => List.replicate wakeUps (.wake, false)

/-- Bursts of one wake-up or more came in, and then as many wake-ups as are unsettled. -/
structure IsDebounced (thread : WatcherThread) (bursts : List Nat) (wakeUps : Nat) : Prop where
  log : thread.log = bursts.flatMap burst ++ unsettled wakeUps thread.watcher.debouncer
  nonempty : ∀ length ∈ bursts, 0 < length
  settled : thread.watcher.debouncer = .wakeUp → wakeUps = 0
  owing : thread.watcher.debouncer = .silence → 0 < wakeUps

theorem isDebounced_take {bursts : List Nat} {wakeUps : Nat} (debounced : thread.IsDebounced bursts wakeUps)
    (listening : thread.isListening = true) (possible : thread.canReceive receipt = true) :
    ∃ bursts wakeUps, (thread.take receipt).IsDebounced bursts wakeUps := by
  obtain ⟨log, nonempty, settled, owing⟩ := debounced
  simp only [isListening, Bool.and_eq_true, bne_iff_ne, ne_eq] at listening
  cases waits : thread.watcher.debouncer with
  | nothing => exact absurd waits listening.2
  | wakeUp =>
    cases settled waits
    rw [waits] at log
    cases receipt with
    | wake =>
      refine ⟨bursts, 1, ?_, nonempty, ?_, fun _ => Nat.one_pos⟩ <;>
        simp [take, receive, waits, Debouncer.next, log, unsettled]
    | quiet => simp [canReceive, waits] at possible
    | closed =>
      refine ⟨bursts, 0, ?_, nonempty, fun _ => rfl, ?_⟩ <;>
        simp [take, receive, waits, Debouncer.next, log, unsettled]
  | silence =>
    have some := owing waits
    rw [waits] at log
    cases receipt with
    | wake =>
      refine ⟨bursts, wakeUps + 1, ?_, nonempty, ?_, fun _ => Nat.succ_pos _⟩ <;>
        simp [take, receive, waits, Debouncer.next, log, unsettled, List.replicate_succ']
    | quiet =>
      refine ⟨bursts ++ [wakeUps], 0, ?_, ?_, fun _ => rfl, ?_⟩
      · simp [take, receive, waits, Debouncer.next, log, unsettled, burst]
      · intro length member
        rcases List.mem_append.mp member with old | last
        · exact nonempty length old
        · rw [List.mem_singleton.mp last]
          exact some
      · simp [take, receive, waits, Debouncer.next]
    | closed =>
      refine ⟨bursts, wakeUps, ?_, nonempty, ?_, fun _ => some⟩ <;>
        simp [take, receive, waits, Debouncer.next, log, unsettled]

theorem isDebounced_of {watcher : FileWatcher} (waiting : watcher.debouncer = .wakeUp) :
    (of watcher).IsDebounced [] 0 := by
  refine ⟨?_, nofun, fun _ => rfl, ?_⟩
  · simp [of, waiting, unsettled]
  · intro silence
    cases waiting.symm.trans silence

theorem isDebounced_after {bursts : List Nat} {wakeUps : Nat} (debounced : thread.IsDebounced bursts wakeUps)
    (done : thread.after? happening = some next) : ∃ bursts wakeUps, next.IsDebounced bursts wakeUps := by
  rcases after?_cases done with ⟨receipt, _, listening, possible, rfl⟩ | ⟨log, waits, _, _⟩
  · exact isDebounced_take debounced listening possible
  · obtain ⟨logged, nonempty, settled, owing⟩ := debounced
    refine ⟨bursts, wakeUps, ?_, nonempty, ?_, ?_⟩ <;> rw [waits]
    · rw [log]
      exact logged
    · exact settled
    · exact owing

theorem isDebounced_run {bursts : List Nat} {wakeUps : Nat} (debounced : thread.IsDebounced bursts wakeUps)
    (run : thread.run happenings = some reached) : ∃ bursts wakeUps, reached.IsDebounced bursts wakeUps := by
  refine run_history (fun _ reached => ∃ bursts wakeUps, reached.IsDebounced bursts wakeUps)
    ⟨bursts, wakeUps, debounced⟩ ?_ run
  rintro _ between happening next done ⟨_, _, debounced⟩
  exact isDebounced_after debounced done

def taken (thread : WatcherThread) : Nat := (thread.log.map Prod.fst).count .wake

theorem taken_take (possible : thread.canReceive receipt = true) :
    (thread.take receipt).taken + (thread.take receipt).queued = thread.taken + thread.queued := by
  simp only [taken, take, List.map_append, List.map_cons, List.map_nil, List.count_append]
  cases receipt with
  | wake =>
    have some : thread.queued ≠ 0 := bne_iff_ne.mp possible
    simp only [beq_self_eq_true, Bool.toNat_true, List.count_singleton_self]
    omega
  | quiet | closed => rfl

theorem taken_run (run : thread.run happenings = some reached) :
    reached.taken + reached.queued = thread.taken + thread.queued + happenings.count .wake := by
  refine run_history (fun happenings reached =>
    reached.taken + reached.queued = thread.taken + thread.queued + happenings.count .wake) rfl ?_ run
  intro earlier between happening next done accounted
  rw [List.count_append]
  rcases after?_cases done with ⟨receipt, rfl, _, possible, rfl⟩ | ⟨log, _, queued, _⟩
  · have same := taken_take possible
    have other : [Happening.receive receipt].count .wake = 0 := rfl
    omega
  · have same : next.taken = between.taken := by rw [taken, log, taken]
    omega

structure Extends (reached thread : WatcherThread) (since : List (Receipt × Bool)) : Prop where
  log : reached.log = thread.log ++ since
  runs : ∀ index times : Nat, thread.watcher.runs[index]? = some times →
    reached.watcher.runs[index]? = some (times + since.countP Prod.snd)

theorem Extends.trans {between : WatcherThread} {first second : List (Receipt × Bool)}
    (last : reached.Extends between second) (earlier : between.Extends thread first) :
    reached.Extends thread (first ++ second) := by
  constructor
  · rw [last.log, earlier.log, List.append_assoc]
  · intro index times callback
    rw [List.countP_append, ← Nat.add_assoc]
    exact last.runs index _ (earlier.runs index times callback)

theorem extends_after (done : thread.after? happening = some next) : ∃ since, next.Extends thread since := by
  rcases after?_cases done with ⟨receipt, _, _, _, rfl⟩ | ⟨log, _, _, runs⟩
  · refine ⟨[(receipt, (thread.watcher.receive receipt).2)], rfl, ?_⟩
    intro index times callback
    simp only [take, receive]
    cases (thread.watcher.debouncer.next receipt).2 with
    | false => exact callback
    | true => simp [callback]
  · refine ⟨[], by rw [log, List.append_nil], ?_⟩
    intro index times callback
    rcases runs with same | more
    · rw [same]
      exact callback
    · rw [more]
      exact List.getElem?_append_left (List.getElem?_eq_some_iff.mp callback).1 ▸ callback

theorem extends_run (run : thread.run happenings = some reached) : ∃ since, reached.Extends thread since := by
  refine run_history (fun _ reached => ∃ since, reached.Extends thread since)
    ⟨[], (List.append_nil _).symm, fun _ _ callback => callback⟩ ?_ run
  rintro _ between happening next done ⟨first, earlier⟩
  obtain ⟨second, last⟩ := extends_after done
  exact ⟨first ++ second, last.trans earlier⟩

theorem runs_of_subscribed {before : List Happening} {between : WatcherThread}
    (earlier : thread.run before = some between)
    (run : thread.run (before ++ .subscribe :: happenings) = some reached) :
    ∃ since, reached.log = between.log ++ since ∧
      reached.watcher.runs[between.watcher.runs.length]? = some (since.countP Prod.snd) := by
  rw [run_append, earlier] at run
  have further : WatcherThread.run { between with watcher := between.watcher.subscribe } happenings = some reached :=
    run
  obtain ⟨since, log, runs⟩ := extends_run further
  refine ⟨since, log, ?_⟩
  have callback := runs between.watcher.runs.length 0 List.getElem?_concat_length
  rwa [Nat.zero_add] at callback

theorem mem_of_last {Thing : Type} {earlier later front : List Thing} {one last : Thing}
    (split : front ++ [last] = earlier ++ one :: later) (other : one ≠ last) : last ∈ later := by
  rcases List.eq_nil_or_concat later with rfl | ⟨inner, final, rfl⟩
  · obtain ⟨_, same⟩ := List.append_inj' split rfl
    cases same
    exact absurd rfl other
  · rw [List.concat_eq_append] at split ⊢
    rw [← List.cons_append, ← List.append_assoc] at split
    obtain ⟨_, same⟩ := List.append_inj' split rfl
    cases same
    exact List.mem_concat_self

theorem IsDebounced.followed {bursts : List Nat} {wakeUps : Nat} (debounced : thread.IsDebounced bursts wakeUps)
    {earlier later : List (Receipt × Bool)} {ran : Bool} (split : thread.log = earlier ++ (.wake, ran) :: later) :
    (.quiet, true) ∈ later ∨ (.closed, false) ∈ later ∨ thread.watcher.debouncer = .silence := by
  have log := debounced.log
  rw [split] at log
  cases waits : thread.watcher.debouncer with
  | silence => exact .inr (.inr rfl)
  | nothing =>
    rw [waits, unsettled, ← List.append_assoc] at log
    exact .inr (.inl (mem_of_last log.symm nofun))
  | wakeUp =>
    rw [debounced.settled waits, waits, unsettled, List.replicate_zero, List.append_nil] at log
    rcases List.eq_nil_or_concat bursts with rfl | ⟨front, last, rfl⟩
    · cases earlier <;> cases log
    · rw [List.concat_eq_append, List.flatMap_append, List.flatMap_singleton, burst, ← List.append_assoc] at log
      exact .inl (mem_of_last log.symm nofun)

def IsOwing (thread : WatcherThread) : Prop := 0 < thread.queued ∨ thread.watcher.debouncer = .silence

theorem run_wakes (listening : thread.isListening = true) :
    ∃ next, thread.run (List.replicate thread.queued (.receive .wake)) = some next ∧ next.queued = 0 ∧
      next.isListening = true ∧ next.log = thread.log ++ List.replicate thread.queued (.wake, false) ∧
      (thread.IsOwing → next.watcher.debouncer = .silence) := by
  induction sent : thread.queued generalizing thread with
  | zero =>
    refine ⟨thread, rfl, sent, listening, (List.append_nil _).symm, ?_⟩
    rintro (some | silence)
    · omega
    · exact silence
  | succ fewer ih =>
    simp only [isListening, Bool.and_eq_true, Bool.not_eq_true', bne_iff_ne, ne_eq] at listening
    have taken : (thread.take .wake).watcher.debouncer = .silence ∧ (thread.take .wake).isRunning = false ∧
        (thread.take .wake).log = thread.log ++ [(.wake, false)] := by
      cases waits : thread.watcher.debouncer with
      | nothing => exact absurd waits listening.2
      | wakeUp | silence => simp [take, receive, waits, Debouncer.next]
    obtain ⟨silence, idle, log⟩ := taken
    have still : (thread.take .wake).isListening = true := by simp [isListening, silence, idle]
    have left : (thread.take .wake).queued = fewer := by
      change thread.queued - 1 = fewer
      omega
    obtain ⟨next, run, none, alive, logged, waits⟩ := ih still left
    refine ⟨next, ?_, none, alive, ?_, fun _ => waits (.inr silence)⟩
    · rw [List.replicate_succ, run_cons]
      simpa [after?, isListening, canReceive, listening, sent] using run
    · rw [logged, log, List.append_assoc, List.replicate_succ, List.singleton_append]

theorem run_settles (alive : thread.watcher.debouncer ≠ .nothing) (owing : thread.IsOwing) :
    ∃ next, thread.run ((if thread.isRunning then [.finish] else []) ++
        List.replicate thread.queued (.receive .wake) ++ [.receive .quiet]) = some next ∧
      next.log = thread.log ++ burst thread.queued := by
  have finished : thread.run (if thread.isRunning then [.finish] else []) =
      some { thread with isRunning := false } := by
    cases running : thread.isRunning with
    | true => simp [run, after?, running]
    | false => exact congrArg (fun running => some { thread with isRunning := running }) running
  have listening : ({ thread with isRunning := false } : WatcherThread).isListening = true := by
    simp [isListening, alive]
  obtain ⟨between, wakes, none, alive, log, silent⟩ := run_wakes listening
  have silence := silent owing
  refine ⟨between.take .quiet, ?_, ?_⟩
  · rw [List.append_assoc, run_append, finished, Option.bind_some, run_append, wakes]
    simp [run, after?, alive, canReceive, none, silence]
  · simp [take, receive, silence, Debouncer.next, log, burst]

/-- Whoever wakes the thread of a watcher at whatever moment: his wake-up was taken, or it is in the channel.  What
was taken are bursts of wake-ups, each closed by one run of the callbacks, and the wake-ups since; the callbacks do
not run otherwise.  A wake-up that was taken is followed by a run unless the channel ends, or the burst still goes
on, and then, or when there are more in the channel, a run follows as soon as nobody wakes the thread any more. -/
theorem wakeUps_are_debounced {watcher : FileWatcher} (waiting : watcher.debouncer = .wakeUp)
    (run : (of watcher).run happenings = some reached) :
    happenings.count .wake = reached.taken + reached.queued ∧
    (∃ (bursts : List Nat) (wakeUps : Nat), (∀ length ∈ bursts, 0 < length) ∧
      (reached.watcher.debouncer = .wakeUp → wakeUps = 0) ∧
      (reached.watcher.debouncer = .silence → 0 < wakeUps) ∧
      reached.log = bursts.flatMap burst ++ unsettled wakeUps reached.watcher.debouncer) ∧
    (∀ earlier ran later, reached.log = earlier ++ (.wake, ran) :: later →
      (.quiet, true) ∈ later ∨ (.closed, false) ∈ later ∨ reached.watcher.debouncer = .silence) ∧
    (reached.watcher.debouncer ≠ .nothing → reached.IsOwing →
      ∃ next, reached.run ((if reached.isRunning then [.finish] else []) ++
          List.replicate reached.queued (.receive .wake) ++ [.receive .quiet]) = some next ∧
        next.log = reached.log ++ burst reached.queued) ∧
    ∀ before rest between, happenings = before ++ .subscribe :: rest → (of watcher).run before = some between →
      ∃ since, reached.log = between.log ++ since ∧
        reached.watcher.runs[between.watcher.runs.length]? = some (since.countP Prod.snd) := by
  obtain ⟨bursts, wakeUps, debounced⟩ := isDebounced_run (isDebounced_of waiting) run
  refine ⟨?_, ⟨bursts, wakeUps, debounced.nonempty, debounced.settled, debounced.owing, debounced.log⟩, ?_, ?_, ?_⟩
  · have accounted := taken_run run
    have fresh : (of watcher).taken + (of watcher).queued = 0 := rfl
    omega
  · intro earlier ran later split
    exact debounced.followed split
  · intro alive owing
    exact run_settles alive owing
  · rintro before rest between rfl earlier
    exact runs_of_subscribed earlier run

theorem wakeUps_are_debounced_while_running :
    let watcher : FileWatcher := ⟨⟨"app.json"⟩, [], "app.json", true, .wakeUp, []⟩
    let happenings : List Happening :=
      [.subscribe, .wake, .receive .wake, .wake, .receive .wake, .receive .quiet, .wake]
    ∃ reached next, watcher.debouncer = .wakeUp ∧ (of watcher).run happenings = some reached ∧
      happenings.count .wake = reached.taken + reached.queued ∧ reached.isRunning = true ∧
      reached.watcher.runs = [1] ∧ reached.log = burst 2 ∧
      reached.run [.finish, .receive .wake, .receive .quiet] = some next ∧ next.log = burst 2 ++ burst 1 := by
  intro watcher happenings
  have waiting : watcher.debouncer = .wakeUp := rfl
  obtain ⟨reached, run⟩ : ∃ reached, (of watcher).run happenings = some reached := ⟨_, rfl⟩
  obtain ⟨accounted, _, _, follows, _⟩ := wakeUps_are_debounced waiting run
  cases Option.some.inj run
  obtain ⟨next, further, log⟩ := follows nofun (.inl Nat.one_pos)
  exact ⟨_, next, waiting, rfl, accounted, rfl, rfl, rfl, further, log⟩

end WatcherThread

end LiveService
