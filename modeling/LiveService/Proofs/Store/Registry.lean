import LiveService.Store.Event

/-!
Subscriptions are numbered in the order in which they are made.  A number is not given out again, so that who
unsubscribes takes out what he has subscribed and nothing else.
-/

namespace LiveService.Subscriptions

variable {Config Callback Subscriber : Type} {entries : List (Nat × Subscriber)} {id next : Nat}
  {registry : Subscriptions Config Callback}

def AreBelow (next : Nat) (entries : List (Nat × Subscriber)) : Prop :=
  ∀ entry ∈ entries, entry.1 < next

namespace AreBelow

theorem succ (below : AreBelow next entries) : AreBelow (next + 1) entries := by
  intro entry member
  exact Nat.lt_succ_of_lt (below entry member)

theorem concat (below : AreBelow next entries) (subscriber : Subscriber) :
    AreBelow (next + 1) (entries ++ [(next, subscriber)]) := by
  intro entry member
  rcases List.mem_append.mp member with old | new
  · exact Nat.lt_succ_of_lt (below entry old)
  · rw [List.mem_singleton.mp new]
    exact Nat.lt_succ_self next

theorem without (below : AreBelow next entries) (id : Nat) :
    AreBelow next (without id entries).2 := by
  intro entry member
  exact below entry (List.mem_filter.mp member).1

theorem filter_eq (below : AreBelow next entries) (unused : next ≤ id) :
    entries.filter (fun entry => entry.1 != id) = entries := by
  rw [List.filter_eq_self]
  intro entry member
  have older := below entry member
  exact bne_iff_ne.mpr (by omega)

theorem without_eq (below : AreBelow next entries) (unused : next ≤ id) :
    Subscriptions.without id entries = (false, entries) := by
  simp only [Subscriptions.without, below.filter_eq unused, bne_self_eq_false]

theorem without_concat (below : AreBelow next entries) (unused : next ≤ id)
    (subscriber : Subscriber) :
    Subscriptions.without id (entries ++ [(id, subscriber)]) = (true, entries) := by
  simp [Subscriptions.without, below.filter_eq unused]

end AreBelow

structure IsNumbered (registry : Subscriptions Config Callback) : Prop where
  modifying : AreBelow registry.nextId registry.modifying
  canceled : AreBelow registry.nextId registry.canceled
  modified : AreBelow registry.nextId registry.modified
  restored : AreBelow registry.nextId registry.restored

theorem IsNumbered.unsubscribe (numbered : registry.IsNumbered) (id : Nat) :
    (registry.unsubscribe id).2.IsNumbered := by
  obtain ⟨modifying, canceled, modified, restored⟩ := numbered
  unfold Subscriptions.unsubscribe
  dsimp only
  split
  · exact ⟨modifying.without id, canceled, modified, restored⟩
  · split
    · exact ⟨modifying, canceled.without id, modified, restored⟩
    · split
      · exact ⟨modifying, canceled, modified.without id, restored⟩
      · exact ⟨modifying, canceled, modified, restored.without id⟩

theorem count_unsubscribe_le (registry : Subscriptions Config Callback) (id : Nat) :
    (registry.unsubscribe id).2.count ≤ registry.count := by
  have fewer {Subscriber : Type} (entries : List (Nat × Subscriber)) :
      (Subscriptions.without id entries).2.length ≤ entries.length :=
    List.length_filter_le _ entries
  unfold Subscriptions.unsubscribe
  dsimp only
  split
  · exact Nat.add_le_add_right (Nat.add_le_add_right (Nat.add_le_add_right (fewer _) _) _) _
  · split
    · exact Nat.add_le_add_right (Nat.add_le_add_right (Nat.add_le_add_left (fewer _) _) _) _
    · split
      · exact Nat.add_le_add_right (Nat.add_le_add_left (fewer _) _) _
      · exact Nat.add_le_add_left (fewer _) _

theorem calls_onModified (event : Event Config) (callback : Callback) :
    registry.calls event ⊆ (registry.onModified callback).2.calls event := by
  cases event with
  | modified => exact List.subset_append_left _ _
  | restored | canceled => exact List.Subset.refl _

theorem calls_onRestored (event : Event Config) (callback : Callback) :
    registry.calls event ⊆ (registry.onRestored callback).2.calls event := by
  cases event with
  | restored => exact List.subset_append_left _ _
  | modified | canceled => exact List.Subset.refl _

inductive IsBuilt : Subscriptions Config Callback → Prop where
  | empty : IsBuilt .empty
  | onModifying {before : Subscriptions Config Callback} (built : IsBuilt before)
      (objector : Objector Config) : IsBuilt (before.onModifying objector).2
  | onCanceled {before : Subscriptions Config Callback} (built : IsBuilt before)
      (callback : Callback) : IsBuilt (before.onCanceled callback).2
  | onModified {before : Subscriptions Config Callback} (built : IsBuilt before)
      (callback : Callback) : IsBuilt (before.onModified callback).2
  | onRestored {before : Subscriptions Config Callback} (built : IsBuilt before)
      (callback : Callback) : IsBuilt (before.onRestored callback).2
  | unsubscribe {before : Subscriptions Config Callback} (built : IsBuilt before) (id : Nat) :
      IsBuilt (before.unsubscribe id).2

theorem IsBuilt.isNumbered (built : registry.IsBuilt) : registry.IsNumbered := by
  induction built with
  | empty => exact ⟨nofun, nofun, nofun, nofun⟩
  | onModifying _ objector numbered =>
    obtain ⟨modifying, canceled, modified, restored⟩ := numbered
    exact ⟨modifying.concat objector, canceled.succ, modified.succ, restored.succ⟩
  | onCanceled _ callback numbered =>
    obtain ⟨modifying, canceled, modified, restored⟩ := numbered
    exact ⟨modifying.succ, canceled.concat callback, modified.succ, restored.succ⟩
  | onModified _ callback numbered =>
    obtain ⟨modifying, canceled, modified, restored⟩ := numbered
    exact ⟨modifying.succ, canceled.succ, modified.concat callback, restored.succ⟩
  | onRestored _ callback numbered =>
    obtain ⟨modifying, canceled, modified, restored⟩ := numbered
    exact ⟨modifying.succ, canceled.succ, modified.succ, restored.concat callback⟩
  | unsubscribe _ id numbered => exact numbered.unsubscribe id

/-- What is left in a registry of two subscriptions, to modifications and to restorations, that are given up one after
the other. -/
inductive Remains (registry : Subscriptions Config Callback) (callback : Callback) :
    List Nat → Subscriptions Config Callback → Prop where
  | both : Remains registry callback [registry.nextId, registry.nextId + 1]
      ((registry.onModified callback).2.onRestored callback).2
  | restorations : Remains registry callback [registry.nextId + 1]
      ({ registry with nextId := registry.nextId + 1 }.onRestored callback).2
  | none : Remains registry callback [] { registry with nextId := registry.nextId + 2 }

theorem Remains.eq_of_nil {callback : Callback} {before : Subscriptions Config Callback}
    (remains : registry.Remains callback [] before) : before = { registry with nextId := registry.nextId + 2 } := by
  generalize none : ([] : List Nat) = ids at remains
  cases remains with
  | both => cases none
  | restorations => cases none
  | none => rfl

theorem Remains.calls {callback : Callback} {ids : List Nat} {before : Subscriptions Config Callback}
    (remains : registry.Remains callback ids before) (event : Event Config) :
    registry.calls event ⊆ before.calls event := by
  cases remains with
  | both =>
    exact List.Subset.trans (registry.calls_onModified event callback)
      (calls_onRestored event callback)
  | restorations =>
    have same : registry.calls event = ({ registry with nextId := registry.nextId + 1 }).calls event := by
      cases event <;> rfl
    rw [same]
    exact calls_onRestored event callback
  | none => cases event <;> exact List.Subset.refl _

theorem IsNumbered.unsubscribe_remains {callback : Callback} {ids : List Nat}
    {before : Subscriptions Config Callback} (numbered : registry.IsNumbered)
    (remains : registry.Remains callback (id :: ids) before) :
    registry.Remains callback ids (before.unsubscribe id).2 := by
  obtain ⟨modifying, canceled, modified, restored⟩ := numbered
  have first := Nat.le_refl registry.nextId
  have second := Nat.le_succ registry.nextId
  cases remains with
  | both =>
    have given : (((registry.onModified callback).2.onRestored callback).2.unsubscribe registry.nextId).2 =
        ({ registry with nextId := registry.nextId + 1 }.onRestored callback).2 := by
      simp only [onModified, onRestored, Subscriptions.unsubscribe, modifying.without_eq first,
        canceled.without_eq first, modified.without_concat first, Bool.false_eq_true, if_false, if_true]
    rw [given]
    exact .restorations
  | restorations =>
    have given : (({ registry with nextId := registry.nextId + 1 }.onRestored callback).2.unsubscribe
        (registry.nextId + 1)).2 = { registry with nextId := registry.nextId + 2 } := by
      simp only [onRestored, Subscriptions.unsubscribe, modifying.without_eq second,
        canceled.without_eq second, modified.without_eq second, restored.without_concat second,
        Bool.false_eq_true, if_false]
    rw [given]
    exact .none

end LiveService.Subscriptions
