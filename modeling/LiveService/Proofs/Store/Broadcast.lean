import LiveService.Proofs.Store.Registry
import Mathlib.Data.List.Induction
import Mathlib.Data.List.Nodup
import Mathlib.Data.List.Perm.Basic

/-!
Subscribing, telling and running calls, in any order.  An event starts one call of each subscriber of its kind that
there is at that moment; what happens later adds none and takes none away.
-/

namespace LiveService

variable {Config Callback : Type}

inductive Registration (Config Callback : Type) where
  | modifying (objector : Objector Config)
  | canceled (callback : Callback)
  | modified (callback : Callback)
  | restored (callback : Callback)

def Registration.calledFor : Registration Config Callback → Event Config → Option Callback
  | .canceled callback, .canceled _ => some callback
  | .modified callback, .modified _ _ _ _ => some callback
  | .restored callback, .restored _ _ _ => some callback
  | _, _ => none

namespace Subscriptions

variable {registry : Subscriptions Config Callback} {id : Nat}

def add (registry : Subscriptions Config Callback) :
    Registration Config Callback → Nat × Subscriptions Config Callback
  | .modifying objector => registry.onModifying objector
  | .canceled callback => registry.onCanceled callback
  | .modified callback => registry.onModified callback
  | .restored callback => registry.onRestored callback

def ids (registry : Subscriptions Config Callback) : List Nat :=
  registry.modifying.map Prod.fst ++ registry.canceled.map Prod.fst ++
    registry.modified.map Prod.fst ++ registry.restored.map Prod.fst

def drop (registry : Subscriptions Config Callback) (id : Nat) : Subscriptions Config Callback where
  nextId := registry.nextId
  modifying := registry.modifying.filter fun entry => entry.1 != id
  canceled := registry.canceled.filter fun entry => entry.1 != id
  modified := registry.modified.filter fun entry => entry.1 != id
  restored := registry.restored.filter fun entry => entry.1 != id

theorem count_eq_length_ids (registry : Subscriptions Config Callback) :
    registry.count = registry.ids.length := by
  simp only [count, ids, List.length_append, List.length_map]

theorem add_fst (registry : Subscriptions Config Callback) (registration : Registration Config Callback) :
    (registry.add registration).1 = registry.nextId := by
  cases registration <;> rfl

theorem nextId_add (registry : Subscriptions Config Callback)
    (registration : Registration Config Callback) :
    (registry.add registration).2.nextId = registry.nextId + 1 := by
  cases registration <;> rfl

theorem ids_add (registry : Subscriptions Config Callback) (registration : Registration Config Callback) :
    (registry.add registration).2.ids.Perm (registry.nextId :: registry.ids) := by
  rw [List.perm_iff_count]
  intro id
  cases registration <;>
    simp only [add, onModifying, onCanceled, onModified, onRestored, ids, List.map_append, List.map_cons,
      List.map_nil, List.count_append, List.count_cons, List.count_nil] <;>
    omega

theorem calls_add (registry : Subscriptions Config Callback) (registration : Registration Config Callback)
    (event : Event Config) :
    (registry.add registration).2.calls event =
      registry.calls event ++
        ((registration.calledFor event).map fun callback => (registry.nextId, callback)).toList := by
  cases registration <;> cases event <;> simp [add, onModifying, onCanceled, onModified, onRestored,
    calls, Registration.calledFor]

theorem calls_drop (registry : Subscriptions Config Callback) (id : Nat) (event : Event Config) :
    (registry.drop id).calls event = (registry.calls event).filter fun entry => entry.1 != id := by
  cases event <;> rfl

theorem calls_ids_sublist (registry : Subscriptions Config Callback) (event : Event Config) :
    ((registry.calls event).map Prod.fst).Sublist registry.ids := by
  cases event with
  | restored => exact List.sublist_append_right _ _
  | modified => exact (List.sublist_append_right _ _).trans (List.sublist_append_left _ _)
  | canceled =>
    apply List.Sublist.trans _ (List.sublist_append_left _ _)
    exact (List.sublist_append_right _ _).trans (List.sublist_append_left _ _)

theorem ids_drop (registry : Subscriptions Config Callback) (id : Nat) :
    (registry.drop id).ids = registry.ids.filter (· != id) := by
  simp only [ids, drop, List.filter_append, List.filter_map]
  rfl

theorem without_eq_decide {Subscriber : Type} (id : Nat) (entries : List (Nat × Subscriber)) :
    Subscriptions.without id entries =
      (decide (id ∈ entries.map Prod.fst), entries.filter fun entry => entry.1 != id) := by
  refine Prod.ext ?_ rfl
  rw [Bool.eq_iff_iff, decide_eq_true_iff]
  simp only [Subscriptions.without, bne_iff_ne, ne_eq, List.length_filter_eq_length_iff, List.mem_map,
    not_forall, not_not, exists_prop]

theorem filter_eq_of_not_mem {Subscriber : Type} {entries : List (Nat × Subscriber)}
    (absent : id ∉ entries.map Prod.fst) : entries.filter (fun entry => entry.1 != id) = entries := by
  rw [List.filter_eq_self]
  intro entry member
  refine bne_iff_ne.mpr ?_
  rintro rfl
  exact absent (List.mem_map_of_mem member)

theorem unsubscribe_eq (distinct : registry.ids.Nodup) (id : Nat) :
    registry.unsubscribe id = (decide (id ∈ registry.ids), registry.drop id) := by
  simp only [ids, List.nodup_append, List.mem_append] at distinct
  obtain ⟨⟨⟨_, _, apartCanceled⟩, _, apartModified⟩, _, apartRestored⟩ := distinct
  simp only [unsubscribe, drop, ids, without_eq_decide, List.mem_append]
  by_cases modifying : id ∈ registry.modifying.map Prod.fst
  · have canceled : id ∉ registry.canceled.map Prod.fst := fun other => apartCanceled id modifying id other rfl
    have modified : id ∉ registry.modified.map Prod.fst := fun other =>
      apartModified id (.inl modifying) id other rfl
    have restored : id ∉ registry.restored.map Prod.fst := fun other =>
      apartRestored id (.inl (.inl modifying)) id other rfl
    simp only [modifying, filter_eq_of_not_mem canceled, filter_eq_of_not_mem modified,
      filter_eq_of_not_mem restored, decide_true, if_true, true_or]
  by_cases canceled : id ∈ registry.canceled.map Prod.fst
  · have modified : id ∉ registry.modified.map Prod.fst := fun other =>
      apartModified id (.inr canceled) id other rfl
    have restored : id ∉ registry.restored.map Prod.fst := fun other =>
      apartRestored id (.inl (.inr canceled)) id other rfl
    simp only [modifying, canceled, filter_eq_of_not_mem modifying, filter_eq_of_not_mem modified,
      filter_eq_of_not_mem restored, decide_true, decide_false, if_true, Bool.false_eq_true, if_false, or_true,
      true_or]
  by_cases modified : id ∈ registry.modified.map Prod.fst
  · have restored : id ∉ registry.restored.map Prod.fst := fun other =>
      apartRestored id (.inr modified) id other rfl
    simp only [modifying, canceled, modified, filter_eq_of_not_mem modifying, filter_eq_of_not_mem canceled,
      filter_eq_of_not_mem restored, decide_true, decide_false, if_true, Bool.false_eq_true, if_false, or_true,
      true_or]
  · simp only [modifying, canceled, modified, filter_eq_of_not_mem modifying, filter_eq_of_not_mem canceled,
      filter_eq_of_not_mem modified, decide_false, Bool.false_eq_true, if_false, false_or]

end Subscriptions

/-- A call of a subscriber.  `occasion` is how many events there were before its own. -/
structure Call (Config Callback : Type) where
  occasion : Nat
  id : Nat
  callback : Callback
  event : Event Config

inductive Deed (Config Callback : Type) where
  | subscribe (registration : Registration Config Callback)
  | unsubscribe (id : Nat)
  | broadcast (event : Event Config)
  | call (index : Nat) (panics : Bool)

def Deed.registers : Deed Config Callback → Bool
  | .subscribe _ => true
  | _ => false

structure Board (Config Callback : Type) where
  registry : Subscriptions Config Callback
  broadcasts : Nat
  pending : List (Call Config Callback)
  made : List (Call Config Callback × Bool)
  answers : List Bool

namespace Board

variable {board : Board Config Callback} {deeds earlier later : List (Deed Config Callback)}

def empty : Board Config Callback := ⟨.empty, 0, [], [], []⟩

def started (board : Board Config Callback) (event : Event Config) : List (Call Config Callback) :=
  (board.registry.calls event).map fun (id, callback) => ⟨board.broadcasts, id, callback, event⟩

def after (board : Board Config Callback) : Deed Config Callback → Board Config Callback
  | .subscribe registration => { board with registry := (board.registry.add registration).2 }
  | .unsubscribe id =>
    let (answer, registry) := board.registry.unsubscribe id
    { board with registry := registry, answers := board.answers ++ [answer] }
  | .broadcast event =>
    { board with broadcasts := board.broadcasts + 1, pending := board.pending ++ board.started event }
  | .call index panics =>
    match board.pending[index]? with
    | none => board
    | some call =>
      { board with pending := board.pending.eraseIdx index, made := board.made ++ [(call, panics)] }

def run (deeds : List (Deed Config Callback)) : Board Config Callback := deeds.foldl after empty

theorem run_concat (deeds : List (Deed Config Callback)) (deed : Deed Config Callback) :
    run (deeds ++ [deed]) = (run deeds).after deed :=
  List.foldl_append

def begun (board : Board Config Callback) : List (Call Config Callback) :=
  board.made.map Prod.fst ++ board.pending

def registrations (deeds : List (Deed Config Callback)) : Nat := deeds.countP Deed.registers

theorem registrations_concat (deeds : List (Deed Config Callback)) (deed : Deed Config Callback) :
    registrations (deeds ++ [deed]) = registrations deeds + deed.registers.toNat := by
  rw [registrations, List.countP_append, List.countP_singleton]
  cases deed.registers <;> rfl

structure IsOrderly (board : Board Config Callback) (registered : Nat) : Prop where
  distinct : board.registry.ids.Nodup
  next : board.registry.nextId = registered + 1
  given : ∀ id ∈ board.registry.ids, id ≤ registered
  counted : board.registry.ids.length + board.answers.count true = registered

theorem IsOrderly.subscribe {registered : Nat} (orderly : board.IsOrderly registered)
    (registration : Registration Config Callback) :
    (board.after (.subscribe registration)).IsOrderly (registered + 1) := by
  obtain ⟨distinct, next, given, counted⟩ := orderly
  have added := board.registry.ids_add registration
  constructor
  · refine added.nodup_iff.mpr (List.nodup_cons.mpr ⟨?_, distinct⟩)
    intro present
    have issued := given _ present
    omega
  · exact (board.registry.nextId_add registration).trans (congrArg (· + 1) next)
  · intro id present
    rcases List.mem_cons.mp (added.mem_iff.mp present) with rfl | old
    · omega
    · exact Nat.le_succ_of_le (given id old)
  · have longer : (board.registry.add registration).2.ids.length = board.registry.ids.length + 1 :=
      added.length_eq
    change (board.registry.add registration).2.ids.length + board.answers.count true = registered + 1
    omega

theorem IsOrderly.unsubscribe {registered : Nat} (orderly : board.IsOrderly registered) (id : Nat) :
    (board.after (.unsubscribe id)).IsOrderly registered := by
  obtain ⟨distinct, next, given, counted⟩ := orderly
  simp only [after, Subscriptions.unsubscribe_eq distinct id]
  constructor
  · rw [Subscriptions.ids_drop]
    exact distinct.filter _
  · exact next
  · intro other present
    rw [Subscriptions.ids_drop] at present
    exact given other (List.mem_filter.mp present).1
  · dsimp only
    rw [Subscriptions.ids_drop, ← distinct.erase_eq_filter, List.length_erase, List.count_append]
    by_cases present : id ∈ board.registry.ids
    · have nonempty := List.length_pos_of_mem present
      simp only [present, if_true, decide_true, List.count_singleton_self]
      omega
    · simp only [present, if_false, decide_false]
      exact counted

theorem isOrderly_run (deeds : List (Deed Config Callback)) :
    (run deeds).IsOrderly (registrations deeds) := by
  induction deeds using List.reverseRecOn with
  | nil => exact ⟨List.nodup_nil, rfl, nofun, rfl⟩
  | append_singleton deeds deed orderly =>
    rw [run_concat, registrations_concat]
    cases deed with
    | subscribe registration => exact orderly.subscribe registration
    | unsubscribe id => exact orderly.unsubscribe id
    | broadcast event => exact ⟨orderly.distinct, orderly.next, orderly.given, orderly.counted⟩
    | call index panics =>
      unfold after
      dsimp only
      split
      · exact orderly
      · exact ⟨orderly.distinct, orderly.next, orderly.given, orderly.counted⟩

/-- Someone was registered for such events under an id, and the id was not unsubscribed since. -/
def IsSubscribed (deeds : List (Deed Config Callback)) (event : Event Config) (id : Nat)
    (callback : Callback) : Prop :=
  ∃ earlier registration later, deeds = earlier ++ .subscribe registration :: later ∧
    registration.calledFor event = some callback ∧ ((run earlier).registry.add registration).1 = id ∧
    .unsubscribe id ∉ later

theorem isSubscribed_concat {deed : Deed Config Callback} {event : Event Config} {id : Nat} {callback : Callback} :
    IsSubscribed (deeds ++ [deed]) event id callback ↔
      IsSubscribed deeds event id callback ∧ deed ≠ .unsubscribe id ∨
      ∃ registration, deed = .subscribe registration ∧ registration.calledFor event = some callback ∧
        (run deeds).registry.nextId = id := by
  constructor
  · rintro ⟨earlier, registration, later, split, called, given, kept⟩
    cases later using List.reverseRecOn with
    | nil =>
      obtain ⟨rfl, last⟩ := List.append_inj' split rfl
      cases last
      exact .inr ⟨registration, rfl, called, (Subscriptions.add_fst _ _).symm.trans given⟩
    | append_singleton later last =>
      rw [← List.cons_append, ← List.append_assoc] at split
      obtain ⟨rfl, same⟩ := List.append_inj' split rfl
      cases same
      rw [List.mem_append, List.mem_singleton, not_or] at kept
      exact .inl ⟨⟨earlier, registration, later, rfl, called, given, kept.1⟩, Ne.symm kept.2⟩
  · rintro (⟨⟨earlier, registration, later, rfl, called, given, kept⟩, other⟩ | ⟨registration, rfl, called, next⟩)
    · refine ⟨earlier, registration, later ++ [deed], by simp, called, given, ?_⟩
      rw [List.mem_append, List.mem_singleton, not_or]
      exact ⟨kept, Ne.symm other⟩
    · exact ⟨deeds, registration, [], rfl, called, (Subscriptions.add_fst _ _).trans next, List.not_mem_nil⟩

theorem mem_calls_run_iff {event : Event Config} {id : Nat} {callback : Callback} :
    (id, callback) ∈ (run deeds).registry.calls event ↔ IsSubscribed deeds event id callback := by
  induction deeds using List.reverseRecOn with
  | nil =>
    refine iff_of_false ?_ ?_
    · cases event <;> exact List.not_mem_nil
    · rintro ⟨earlier, _, _, split, _⟩
      cases earlier <;> cases split
  | append_singleton deeds deed known =>
    rw [run_concat, isSubscribed_concat]
    cases deed with
    | subscribe registration =>
      simp only [after, Subscriptions.calls_add, List.mem_append, known, Option.mem_toList,
        Option.map_eq_some_iff, Prod.mk.injEq, ne_eq, reduceCtorEq, not_false_eq_true, and_true,
        Deed.subscribe.injEq, exists_eq_left']
      refine or_congr_right ⟨?_, ?_⟩
      · rintro ⟨_, called, next, rfl⟩
        exact ⟨called, next⟩
      · rintro ⟨called, next⟩
        exact ⟨callback, called, next, rfl⟩
    | unsubscribe gone =>
      simp only [after, Subscriptions.unsubscribe_eq (isOrderly_run deeds).distinct, Subscriptions.calls_drop,
        List.mem_filter, known, bne_iff_ne, ne_eq, Deed.unsubscribe.injEq, reduceCtorEq, false_and, exists_false,
        or_false]
      exact and_congr_right fun _ => ne_comm
    | broadcast told => simpa [after] using known
    | call index panics =>
      have same : ((run deeds).after (.call index panics)).registry = (run deeds).registry := by
        unfold after
        dsimp only
        split <;> rfl
      simpa [same] using known

def opened (board : Board Config Callback) : Deed Config Callback → List (Call Config Callback)
  | .broadcast event => board.started event
  | _ => []

theorem begun_after (board : Board Config Callback) (deed : Deed Config Callback) :
    (board.after deed).begun.Perm (board.begun ++ board.opened deed) := by
  cases deed with
  | subscribe | unsubscribe => exact List.Perm.of_eq (List.append_nil _).symm
  | broadcast event => exact List.Perm.of_eq (List.append_assoc _ _ _).symm
  | call index panics =>
    refine List.Perm.trans ?_ (List.Perm.of_eq (List.append_nil _).symm)
    unfold after
    dsimp only
    split
    · rfl
    · rename_i call found
      obtain ⟨inside, rfl⟩ := List.getElem?_eq_some_iff.mp found
      simp only [begun, List.map_append, List.map_cons, List.map_nil, List.append_assoc, List.singleton_append]
      exact (List.getElem_cons_eraseIdx_perm inside).append_left _

theorem occasion_of_mem_started {event : Event Config} {call : Call Config Callback}
    (started : call ∈ board.started event) : call.occasion = board.broadcasts := by
  obtain ⟨_, _, rfl⟩ := List.mem_map.mp started
  rfl

theorem exists_broadcast {call : Call Config Callback} (begun : call ∈ (run deeds).begun) :
    ∃ before event rest, deeds = before ++ .broadcast event :: rest ∧ call.occasion = (run before).broadcasts := by
  induction deeds using List.reverseRecOn with
  | nil => cases begun
  | append_singleton deeds deed known =>
    rw [run_concat, (begun_after _ _).mem_iff, List.mem_append] at begun
    rcases begun with old | new
    · obtain ⟨before, event, rest, rfl, occasion⟩ := known old
      exact ⟨before, event, rest ++ [deed], by simp, occasion⟩
    · cases deed with
      | broadcast event => exact ⟨deeds, event, [], rfl, occasion_of_mem_started new⟩
      | subscribe | unsubscribe | call => cases new

theorem broadcasts_le_after (board : Board Config Callback) (deed : Deed Config Callback) :
    board.broadcasts ≤ (board.after deed).broadcasts := by
  unfold after
  split
  · exact Nat.le_refl _
  · exact Nat.le_refl _
  · exact Nat.le_succ _
  · split <;> exact Nat.le_refl _

theorem broadcasts_le_run (earlier later : List (Deed Config Callback)) :
    (run earlier).broadcasts ≤ (run (earlier ++ later)).broadcasts := by
  induction later using List.reverseRecOn with
  | nil => simp only [List.append_nil, Nat.le_refl]
  | append_singleton later deed known =>
    rw [← List.append_assoc, run_concat]
    exact Nat.le_trans known (broadcasts_le_after _ deed)

theorem broadcasts_broadcast (event : Event Config) :
    (run (earlier ++ [.broadcast event])).broadcasts = (run earlier).broadcasts + 1 := by
  rw [run_concat]
  rfl

def callsOf (board : Board Config Callback) (occasion : Nat) : List (Call Config Callback) :=
  board.begun.filter fun call => call.occasion == occasion

theorem callsOf_after (board : Board Config Callback) (deed : Deed Config Callback) (occasion : Nat) :
    ((board.after deed).callsOf occasion).Perm
      (board.callsOf occasion ++ (board.opened deed).filter fun call => call.occasion == occasion) := by
  rw [callsOf, callsOf, ← List.filter_append]
  exact (begun_after board deed).filter _

theorem callsOf_eq_nil {occasion : Nat} (unheard : (run deeds).broadcasts ≤ occasion) :
    (run deeds).callsOf occasion = [] := by
  rw [callsOf, List.filter_eq_nil_iff]
  intro call begun
  obtain ⟨before, event, rest, rfl, given⟩ := exists_broadcast begun
  have later := broadcasts_le_run (before ++ [.broadcast event]) rest
  rw [broadcasts_broadcast, List.append_assoc, List.singleton_append] at later
  rw [beq_iff_eq]
  omega

theorem callsOf_run (before : List (Deed Config Callback)) (event : Event Config)
    (rest : List (Deed Config Callback)) :
    ((run (before ++ .broadcast event :: rest)).callsOf (run before).broadcasts).Perm
      ((run before).started event) := by
  induction rest using List.reverseRecOn with
  | nil =>
    rw [run_concat]
    refine (callsOf_after _ _ _).trans (List.Perm.of_eq ?_)
    rw [callsOf_eq_nil (Nat.le_refl _), List.nil_append]
    refine List.filter_eq_self.mpr ?_
    intro call started
    exact beq_iff_eq.mpr (occasion_of_mem_started started)
  | append_singleton rest deed known =>
    rw [← List.cons_append, ← List.append_assoc, run_concat]
    refine ((callsOf_after _ _ _).trans (List.Perm.of_eq ?_)).trans known
    refine List.append_right_eq_self.mpr (List.filter_eq_nil_iff.mpr ?_)
    intro call opened
    have later := broadcasts_le_run (before ++ [.broadcast event]) rest
    rw [broadcasts_broadcast, List.append_assoc, List.singleton_append] at later
    cases deed with
    | broadcast other =>
      have given := occasion_of_mem_started opened
      rw [beq_iff_eq]
      omega
    | subscribe | unsubscribe | call => cases opened

/-- Whatever is subscribed, unsubscribed, told and called in whatever order: the ids that are registered differ, also
as numbers of 64 bits; unsubscribing takes out the entry with the id, if there is one, and leaves the others in their
order; as many are registered as were and were not unsubscribed.  Each event starts one call, with that event, of
each of those who are subscribed to its kind, and there are no other calls. -/
theorem subscribers_are_called_once (deeds : List (Deed Config Callback))
    (few : registrations deeds < UInt64.size) :
    let board := run deeds
    board.registry.ids.Nodup ∧ (board.registry.ids.map UInt64.ofNat).Nodup ∧
      (∀ id,
        board.registry.unsubscribe id = (decide (id ∈ board.registry.ids), board.registry.drop id) ∧
        (board.registry.drop id).ids = board.registry.ids.erase id) ∧
      board.registry.count + board.answers.count true = registrations deeds ∧
      (∀ before event rest, deeds = before ++ .broadcast event :: rest →
        ∃ subscribers : List (Nat × Callback),
          (subscribers.map Prod.fst).Nodup ∧
          (∀ id callback, (id, callback) ∈ subscribers ↔ IsSubscribed before event id callback) ∧
          (board.callsOf (run before).broadcasts).Perm
            (subscribers.map fun (id, callback) => ⟨(run before).broadcasts, id, callback, event⟩)) ∧
      ∀ call ∈ board.begun, ∃ before event rest,
        deeds = before ++ .broadcast event :: rest ∧ call.occasion = (run before).broadcasts := by
  intro board
  obtain ⟨distinct, _, given, counted⟩ := isOrderly_run deeds
  refine ⟨distinct, ?_, ?_, ?_, ?_, ?_⟩
  · refine distinct.map_on ?_
    intro first firstPresent second secondPresent same
    have firstGiven := given first firstPresent
    have secondGiven := given second secondPresent
    rwa [← UInt64.toNat_inj, UInt64.toNat_ofNat_of_lt' (by omega), UInt64.toNat_ofNat_of_lt' (by omega)] at same
  · intro id
    exact ⟨Subscriptions.unsubscribe_eq distinct id,
      (Subscriptions.ids_drop _ id).trans (distinct.erase_eq_filter id).symm⟩
  · rw [Subscriptions.count_eq_length_ids]
    exact counted
  · rintro before event rest rfl
    refine ⟨(run before).registry.calls event, ?_, fun _ _ => mem_calls_run_iff, callsOf_run before event rest⟩
    exact (isOrderly_run before).distinct.sublist (Subscriptions.calls_ids_sublist _ event)
  · intro call begun
    exact exists_broadcast begun

theorem subscribers_are_called_once_when_one_leaves :
    let event : Event Nat := .modified 1 0 1 .api
    let deeds : List (Deed Nat String) :=
      [.subscribe (.modified "loud"), .subscribe (.modified "calm"), .broadcast event, .unsubscribe 1,
        .broadcast event, .subscribe (.modified "late"), .call 2 false, .call 0 true]
    registrations deeds < UInt64.size ∧ (run deeds).registry.ids = [2, 3] ∧
      (run deeds).registry.count + (run deeds).answers.count true = registrations deeds ∧
      ((run deeds).callsOf 0).map Call.callback = ["loud", "calm"] ∧
      ((run deeds).callsOf 1).map Call.callback = ["calm"] := by
  intro event deeds
  have few : registrations deeds < UInt64.size := by decide
  have facts : (run deeds).registry.ids = [2, 3] ∧ ((run deeds).callsOf 0).map Call.callback = ["loud", "calm"] ∧
      ((run deeds).callsOf 1).map Call.callback = ["calm"] := by
    decide +kernel
  obtain ⟨ids, first, second⟩ := facts
  obtain ⟨_, _, _, counted, _, _⟩ := subscribers_are_called_once deeds few
  exact ⟨few, ids, counted, first, second⟩

end Board

end LiveService
