import LiveService.Proofs.Store.History

/-!
Changes of the value in effect, and how they fit together.  Each starts from the value that the one before has left,
so that whoever goes through them in the order of their versions, and misses none, ends with the value in effect.
-/

namespace LiveService

variable {Config : Type}

namespace Slots

inductive MovesBy (slots after : Slots Config) : List (Transition Config) → Prop where
  | stays (version : after.version = slots.version) (current : after.current = slots.current) :
      MovesBy slots after []
  | moves (version : after.version = slots.version + 1) :
      MovesBy slots after [⟨after.version, slots.current, after.current⟩]

/-- Changes of which the last leads to the value in effect.  From a version on, each starts from the value that the
one before has left. -/
structure IsReachedBy (slots : Slots Config) (base : Nat) (changes : List (Transition Config)) : Prop where
  bounded : ∀ change ∈ changes, change.version ≤ slots.version
  newest : ∀ change ∈ changes, change.version = slots.version → change.latter = slots.current
  single : ∀ change ∈ changes, ∀ other ∈ changes, other.version = change.version →
    other.latter = change.latter
  linked : ∀ change ∈ changes, base ≤ change.version → ∀ later ∈ changes,
    later.version = change.version + 1 → later.former = change.latter

def IsCoveredBy (slots : Slots Config) (base : Nat) (changes : List (Transition Config)) : Prop :=
  ∀ version, base < version → version ≤ slots.version → ∃ change ∈ changes, change.version = version

variable {slots after last : Slots Config} {base later : Nat} {changes news others : List (Transition Config)}

theorem MovesBy.congr (moves : slots.MovesBy after news) (version : last.version = after.version)
    (current : last.current = after.current) : slots.MovesBy last news := by
  cases moves with
  | stays sameVersion sameCurrent => exact .stays (version.trans sameVersion) (current.trans sameCurrent)
  | moves next =>
    rw [← version, ← current]
    exact .moves (version.trans next)

namespace IsReachedBy

theorem nil (slots : Slots Config) : slots.IsReachedBy base [] :=
  ⟨nofun, nofun, nofun, nofun⟩

theorem subset (reached : slots.IsReachedBy base changes) (older : base ≤ later)
    (within : ∀ change ∈ others, change ∈ changes) : slots.IsReachedBy later others where
  bounded change member := reached.bounded change (within change member)
  newest change member := reached.newest change (within change member)
  single change member other memberOther :=
    reached.single change (within change member) other (within other memberOther)
  linked change member since next memberNext :=
    reached.linked change (within change member) (Nat.le_trans older since) next
      (within next memberNext)

theorem read (reached : slots.IsReachedBy base changes) :
    slots.IsReachedBy slots.version (⟨slots.version, slots.current, slots.current⟩ :: changes) := by
  constructor <;> simp only [List.mem_cons]
  · rintro change (rfl | old)
    · exact Nat.le_refl _
    · exact reached.bounded change old
  · rintro change (rfl | old) version
    · rfl
    · exact reached.newest change old version
  · rintro change (rfl | old) other (rfl | oldOther) version
    · rfl
    · exact reached.newest other oldOther version
    · exact (reached.newest change old version.symm).symm
    · exact reached.single change old other oldOther version
  · -- Nothing follows what is in effect.
    rintro change _ since next (rfl | old) follows
    · dsimp only at follows
      omega
    · have bound := reached.bounded next old
      omega

theorem commit (reached : slots.IsReachedBy base changes) (version : after.version = slots.version + 1) :
    after.IsReachedBy base (⟨after.version, slots.current, after.current⟩ :: changes) := by
  have older (change : Transition Config) (old : change ∈ changes) : change.version < after.version :=
    version ▸ Nat.lt_succ_of_le (reached.bounded change old)
  constructor <;> simp only [List.mem_cons]
  · rintro change (rfl | old)
    · exact Nat.le_refl _
    · exact Nat.le_of_lt (older change old)
  · rintro change (rfl | old) same
    · rfl
    · exact absurd same (Nat.ne_of_lt (older change old))
  · rintro change (rfl | old) other (rfl | oldOther) same
    · rfl
    · exact absurd same (Nat.ne_of_lt (older other oldOther))
    · exact absurd same.symm (Nat.ne_of_lt (older change old))
    · exact reached.single change old other oldOther same
  · rintro change (rfl | old) since next (rfl | oldNext) follows
    · exact absurd follows (Nat.ne_of_lt (Nat.lt_succ_self _))
    · exact absurd follows (Nat.ne_of_lt (Nat.lt_succ_of_lt (older next oldNext)))
    · exact (reached.newest change old (Nat.succ.inj (follows.symm.trans version))).symm
    · exact reached.linked change old since next oldNext follows

theorem moved (reached : slots.IsReachedBy base changes) (moves : slots.MovesBy after news)
    (known : ∀ change ∈ others, change ∈ changes ∨ change ∈ news) : after.IsReachedBy base others := by
  cases moves with
  | stays version current =>
    have kept : after.IsReachedBy base changes :=
      ⟨version ▸ reached.bounded, version ▸ current ▸ reached.newest, reached.single, reached.linked⟩
    exact kept.subset (Nat.le_refl base) fun change member => (known change member).resolve_right nofun
  | moves version =>
    refine (reached.commit version).subset (Nat.le_refl base) ?_
    intro change member
    rcases known change member with old | new
    · exact List.mem_cons_of_mem _ old
    · exact List.mem_cons.mpr (.inl (List.mem_singleton.mp new))

end IsReachedBy

theorem IsCoveredBy.moved (covered : slots.IsCoveredBy base changes) (moves : slots.MovesBy after news)
    (kept : ∀ change, change ∈ changes ∨ change ∈ news → change ∈ others) :
    after.IsCoveredBy base others := by
  intro version newer within
  by_cases old : version ≤ slots.version
  · obtain ⟨change, member, same⟩ := covered version newer old
    exact ⟨change, kept change (.inl member), same⟩
  · cases moves with
    | stays sameVersion => exact absurd within (by omega)
    | moves next =>
      exact ⟨_, kept _ (.inr (List.mem_singleton_self _)), by simp only; omega⟩

theorem IsCoveredBy.tail {start change : Transition Config}
    (covered : slots.IsCoveredBy start.version (start :: change :: changes))
    (newer : start.version ≤ change.version) :
    slots.IsCoveredBy change.version (change :: changes) := by
  intro version later within
  obtain ⟨other, among, same⟩ := covered version (by omega) within
  rcases List.mem_cons.mp among with rfl | among
  · omega
  · exact ⟨other, among, same⟩

theorem IsCoveredBy.near {start change : Transition Config}
    (covered : slots.IsCoveredBy start.version (start :: change :: changes))
    (bound : change.version ≤ slots.version)
    (ordered : (change :: changes).Pairwise (fun earlier later => earlier.version ≤ later.version)) :
    change.version ≤ start.version + 1 := by
  apply Nat.le_of_not_lt
  intro far
  obtain ⟨missing, among, version⟩ := covered (start.version + 1) (by omega) (by omega)
  simp only [List.mem_cons] at among
  rcases among with rfl | rfl | later
  · omega
  · omega
  · have ordered := (List.pairwise_cons.mp ordered).1 missing later
    omega

end Slots

theorem Effect.movesBy {slots : Slots Config} {outcome : Outcome Config}
    (effect : Effect slots outcome) : slots.MovesBy outcome.slots (transitions outcome.announced) := by
  rcases effect.moves_together with ⟨version, current, untold, _⟩ | ⟨version, told, _⟩
  · rw [untold]
    exact .stays version current
  · rw [told]
    exact .moves version

theorem transitions_cons_of_none {event : Event Config} (silent : event.transition? = none)
    (events : List (Event Config)) : transitions (event :: events) = transitions events :=
  List.filterMap_cons_none silent

theorem transitions_cons_of_some {event : Event Config} {change : Transition Config}
    (told : event.transition? = some change) (events : List (Event Config)) :
    transitions (event :: events) = change :: transitions events :=
  List.filterMap_cons_some told

/-- Whoever starts from what a change has led to, and takes in those after it in the order of their versions, comes
to agree with the value in effect. -/
theorem Slots.IsReachedBy.agrees {State : Type} {agrees : Config → State → Prop}
    {apply : Event Config → State → State} {slots : Slots Config} {events : List (Event Config)}
    (idles : ∀ event ∈ events, event.transition? = none → ∀ state, apply event state = state)
    (carries : ∀ event ∈ events, ∀ change, event.transition? = some change → ∀ state,
      agrees change.former state ∨ agrees change.latter state →
        agrees change.latter (apply event state)) :
    ∀ (start : Transition Config) (state : State), agrees start.latter state →
      slots.IsReachedBy start.version (start :: transitions events) →
      slots.IsCoveredBy start.version (start :: transitions events) →
      (start :: transitions events).Pairwise (fun earlier later => earlier.version ≤ later.version) →
      agrees slots.current (events.foldl (fun state event => apply event state) state) := by
  induction events with
  | nil =>
    intro start state agreed reached covered _
    have bound := reached.bounded start List.mem_cons_self
    rcases Nat.lt_or_eq_of_le bound with older | same
    · obtain ⟨change, member, same⟩ := covered slots.version older (Nat.le_refl _)
      rw [List.mem_singleton.mp member] at same
      exact absurd same (Nat.ne_of_lt older)
    · rw [← reached.newest start List.mem_cons_self same]
      exact agreed
  | cons event rest ih =>
    intro start state agreed reached covered ordered
    have ih := ih (fun event member => idles event (List.mem_cons_of_mem _ member))
      (fun event member => carries event (List.mem_cons_of_mem _ member))
    cases told : event.transition? with
    | none =>
      rw [transitions_cons_of_none told] at reached covered ordered
      rw [List.foldl_cons, idles event List.mem_cons_self told]
      exact ih start state agreed reached covered ordered
    | some change =>
      rw [transitions_cons_of_some told] at reached covered ordered
      have member : change ∈ start :: change :: transitions rest :=
        List.mem_cons_of_mem _ List.mem_cons_self
      obtain ⟨first, ordered⟩ := List.pairwise_cons.mp ordered
      have newer := first change List.mem_cons_self
      have near : change.version ≤ start.version + 1 :=
        covered.near (reached.bounded change member) ordered
      have agreedBefore : agrees change.former state ∨ agrees change.latter state := by
        rcases Nat.lt_or_eq_of_le newer with next | same
        · left
          rw [reached.linked start List.mem_cons_self (Nat.le_refl _) change member (by omega)]
          exact agreed
        · right
          rw [reached.single start List.mem_cons_self change member same.symm]
          exact agreed
      have agreedAfter := carries event List.mem_cons_self change told state agreedBefore
      refine ih change (apply event state) agreedAfter ?_ (covered.tail newer) ordered
      exact reached.subset newer fun other among => List.mem_cons_of_mem _ among

end LiveService
