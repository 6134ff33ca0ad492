import Mathlib.Data.Int.ConditionallyCompleteOrder
import Mathlib.Data.Int.Interval
import Mathlib.Order.ConditionallyCompleteLattice.Basic
import LiveService.Schedule.Period

/-!
When a period is due.  The instants form windows of a minute, which follow each other at equal distances of a
day or of a week, and whoever looks at the clock twice a minute sees every window twice.
-/

namespace LiveService

namespace Weekday

def index : Weekday → Nat
  | monday => 0
  | tuesday => 1
  | wednesday => 2
  | thursday => 3
  | friday => 4
  | saturday => 5
  | sunday => 6

theorem index_lt (day : Weekday) : day.index < 7 := by
  cases day <;> decide

theorem ofIndex_eq_iff {count : Nat} {day : Weekday} : ofIndex count = day ↔ count % 7 = day.index := by
  have bound : count % 7 < 7 := Nat.mod_lt count (by decide)
  unfold ofIndex
  generalize count % 7 = rest at bound ⊢
  revert rest
  cases day <;> decide

end Weekday

theorem WallClock.inCalendar_iff {instant : Int} :
    inCalendar instant = true ↔
      86400 * (daysBeforeYear firstYear - daysBeforeYear 1970) ≤ instant ∧
        instant < 86400 * (daysBeforeYear (lastYear + 1) - daysBeforeYear 1970) := by
  simp only [inCalendar, Bool.and_eq_true, decide_eq_true_eq]
  unfold dayOf
  omega

theorem WallClock.inCalendar_between {first last instant : Int} (after : inCalendar first = true)
    (before : inCalendar last = true) (least : first ≤ instant) (most : instant ≤ last) :
    inCalendar instant = true := by
  rw [inCalendar_iff] at after before ⊢
  omega

namespace Period

structure IsInRange (period : Period) : Prop where
  hour : period.hour.toNat ≤ 23
  minute : period.minute.toNat ≤ 59

theorem checked_eq_ok_iff {weekday : Weekday} {hour minute : UInt32} {weekly : Bool} {period : Period} :
    checked weekday hour minute weekly = .ok period ↔
      period = ⟨weekday, hour, minute, weekly⟩ ∧ period.IsInRange := by
  unfold checked
  split
  · rename_i late
    rw [UInt32.lt_iff_toNat_lt] at late
    refine ⟨nofun, ?_⟩
    rintro ⟨rfl, inRange⟩
    exact absurd inRange.hour (Nat.not_le.mpr late)
  · rename_i inDay
    rw [UInt32.lt_iff_toNat_lt] at inDay
    split
    · rename_i late
      rw [UInt32.lt_iff_toNat_lt] at late
      refine ⟨nofun, ?_⟩
      rintro ⟨rfl, inRange⟩
      exact absurd inRange.minute (Nat.not_le.mpr late)
    · rename_i inHour
      rw [UInt32.lt_iff_toNat_lt] at inHour
      constructor
      · rintro ⟨⟩
        exact ⟨rfl, Nat.not_lt.mp inDay, Nat.not_lt.mp inHour⟩
      · rintro ⟨rfl, _⟩
        rfl

/-- A window starts: the clock turns to the minute of the period, on its weekday if that counts. -/
structure Opens (period : Period) (offset start : Int) : Prop where
  hour : (WallClock.read start offset).hour = period.hour.toNat
  minute : (WallClock.read start offset).minute = period.minute.toNat
  second : (start + offset) % 60 = 0
  weekday : period.weekly = true → (WallClock.read start offset).weekday = period.weekday

def span (period : Period) : Int := if period.weekly then 604800 else 86400

theorem span_cases (period : Period) : period.span = 86400 ∨ period.span = 604800 := by
  unfold span
  split
  · exact .inr rfl
  · exact .inl rfl

/-- The second of the day, or of the week, at which windows start.  The weeks are counted from the first day
of 1970, which was a Thursday. -/
def phase (period : Period) : Int :=
  3600 * period.hour.toNat + 60 * period.minute.toNat +
    if period.weekly then 86400 * ((period.weekday.index + 4) % 7 : Nat) else 0

variable {period : Period} {offset instant start : Int}

theorem weekday_read_iff {day : Weekday} :
    (WallClock.read instant offset).weekday = day ↔
      ((instant + offset) / 86400 + 3) % 7 = day.index := by
  have bound := day.index_lt
  simp only [WallClock.read, WallClock.dayOf, Weekday.ofIndex_eq_iff]
  omega

theorem isDue_read_iff (inRange : period.IsInRange) :
    period.isDue (WallClock.read instant offset) = true ↔
      (instant + offset - period.phase) % period.span < 60 := by
  obtain ⟨hour, minute⟩ := inRange
  have bound := period.weekday.index_lt
  simp only [isDue, Bool.and_eq_true, Bool.or_eq_true, Bool.not_eq_true', beq_iff_eq, weekday_read_iff]
  simp only [WallClock.read, phase, span]
  cases weekly : period.weekly with
  | false =>
    simp only [Bool.false_eq_true, if_false, true_or, and_true]
    omega
  | true =>
    simp only [Bool.true_eq_false, if_true, false_or]
    omega

theorem opens_iff (inRange : period.IsInRange) :
    period.Opens offset start ↔ (start + offset - period.phase) % period.span = 0 := by
  obtain ⟨hour, minute⟩ := inRange
  have bound := period.weekday.index_lt
  have opens : period.Opens offset start ↔
      ((start + offset) % 86400).toNat / 3600 = period.hour.toNat ∧
        ((start + offset) % 86400).toNat / 60 % 60 = period.minute.toNat ∧
        (start + offset) % 60 = 0 ∧
        (period.weekly = true → ((start + offset) / 86400 + 3) % 7 = period.weekday.index) := by
    constructor
    · rintro ⟨hour, minute, second, weekday⟩
      exact ⟨hour, minute, second, fun weekly => weekday_read_iff.mp (weekday weekly)⟩
    · rintro ⟨hour, minute, second, weekday⟩
      exact ⟨hour, minute, second, fun weekly => weekday_read_iff.mpr (weekday weekly)⟩
  rw [opens]
  unfold phase span
  cases weekly : period.weekly with
  | false =>
    simp only [Bool.false_eq_true, if_false, false_implies, and_true]
    omega
  | true =>
    simp only [if_true, true_implies]
    omega

theorem minute_le_span (period : Period) : 60 ≤ period.span := by
  rcases period.span_cases with span | span <;> omega

theorem exists_opening (inRange : period.IsInRange) (offset : Int) :
    ∃ origin, 0 ≤ origin ∧ origin < 604800 ∧
      ∀ start, period.Opens offset start ↔ ∃ round : Int, start = origin + period.span * round := by
  have positive : 0 < period.span := lt_of_lt_of_le (by decide) period.minute_le_span
  have below := Int.emod_lt_of_pos (period.phase - offset) positive
  have whole := Int.emod_add_mul_ediv (period.phase - offset) period.span
  refine ⟨(period.phase - offset) % period.span, Int.emod_nonneg _ positive.ne', ?_, fun start => ?_⟩
  · rcases period.span_cases with span | span <;> omega
  · rw [opens_iff inRange, ← Int.dvd_iff_emod_eq_zero]
    constructor
    · rintro ⟨round, same⟩
      refine ⟨round + (period.phase - offset) / period.span, ?_⟩
      rw [Int.mul_add]
      omega
    · rintro ⟨round, rfl⟩
      refine ⟨round - (period.phase - offset) / period.span, ?_⟩
      rw [Int.mul_sub]
      omega

theorem isDueAt_iff (near : offset.natAbs < 86400) (known : WallClock.inCalendar instant = true) :
    period.isDueAt offset instant = true ↔ period.isDue (WallClock.read instant offset) = true := by
  simp [isDueAt, WallClock.at?, near, known]

theorem isDueAt_iff_opens (inRange : period.IsInRange) (near : offset.natAbs < 86400)
    (known : WallClock.inCalendar instant = true) :
    period.isDueAt offset instant = true ↔
      ∃ start, period.Opens offset start ∧ start ≤ instant ∧ instant < start + 60 := by
  rw [isDueAt_iff near known, isDue_read_iff inRange]
  simp only [opens_iff inRange, ← Int.dvd_iff_emod_eq_zero]
  have positive : 0 < period.span := lt_of_lt_of_le (by decide) period.minute_le_span
  have whole := Int.emod_add_mul_ediv (instant + offset - period.phase) period.span
  constructor
  · intro due
    have inside := Int.emod_nonneg (instant + offset - period.phase) positive.ne'
    refine ⟨instant - (instant + offset - period.phase) % period.span, ?_, by omega, by omega⟩
    exact ⟨(instant + offset - period.phase) / period.span, by omega⟩
  · rintro ⟨start, ⟨round, same⟩, least, most⟩
    have room := period.minute_le_span
    have split : instant + offset - period.phase = instant - start + period.span * round := by omega
    rw [split, Int.add_mul_emod_self_left, Int.emod_eq_of_lt (by omega) (by omega)]
    omega

theorem card_window {span : Int} (room : 60 ≤ span) (first shift : Int) :
    ((Finset.Ico first (first + span)).filter fun instant => (instant + shift) % span < 60).card =
      60 := by
  have minute : (Finset.Ico (0 : Int) 60).card = 60 := by
    rw [Int.card_Ico]
    rfl
  rw [← minute]
  have positive : 0 < span := by omega
  refine Finset.card_nbij' (fun instant => (instant + shift) % span)
    (fun second => first + (second - (first + shift)) % span) ?_ ?_ ?_ ?_
  · intro instant member
    have low := (Finset.mem_filter.mp member).2
    exact Finset.mem_Ico.mpr ⟨Int.emod_nonneg _ positive.ne', low⟩
  · intro second member
    obtain ⟨least, most⟩ := Finset.mem_Ico.mp member
    have inside := Int.emod_nonneg (second - (first + shift)) positive.ne'
    have below := Int.emod_lt_of_pos (second - (first + shift)) positive
    dsimp only
    refine Finset.mem_filter.mpr ⟨Finset.mem_Ico.mpr ⟨by omega, by omega⟩, ?_⟩
    rw [add_right_comm, Int.add_emod_emod, add_sub_cancel, Int.emod_eq_of_lt least (by omega)]
    exact most
  · intro instant member
    obtain ⟨least, most⟩ := Finset.mem_Ico.mp (Finset.mem_filter.mp member).1
    dsimp only
    rw [Int.emod_sub_emod, add_sub_add_right_eq_sub, Int.emod_eq_of_lt (by omega) (by omega)]
    omega
  · intro second member
    obtain ⟨least, most⟩ := Finset.mem_Ico.mp member
    dsimp only
    rw [add_right_comm, Int.add_emod_emod, add_sub_cancel, Int.emod_eq_of_lt least (by omega)]

theorem card_due (inRange : period.IsInRange) (near : offset.natAbs < 86400) {first : Int}
    (begins : WallClock.inCalendar first = true)
    (ends : WallClock.inCalendar (first + period.span - 1) = true) :
    ((Finset.Ico first (first + period.span)).filter fun instant =>
      period.isDueAt offset instant = true).card = 60 := by
  rw [← card_window period.minute_le_span first (offset - period.phase)]
  congr 1
  refine Finset.filter_congr fun instant member => ?_
  obtain ⟨least, most⟩ := Finset.mem_Ico.mp member
  have known := WallClock.inCalendar_between begins ends least (by omega)
  rw [isDueAt_iff near known, isDue_read_iff inRange, add_sub_assoc]

theorem ticks_in_window {first : Int} (before : first ≤ start) :
    ∃ index : Nat, ∀ other : Nat,
      (start ≤ tick first other ∧ tick first other < start + 60) ↔ other = index ∨ other = index + 1 := by
  refine ⟨((start - first + 29) / 30).toNat, fun other => ?_⟩
  simp only [tick, tickSeconds]
  omega

/-- The instants at which a period is due are those of its windows, each a minute long.  The windows are as far
apart as a day or a week is long, so that every day or week has sixty such seconds, and a schedule that was made
before a window looks at the clock twice in it. -/
theorem due_seconds_recur (period : Period) (weekday : Weekday) (hour minute : UInt32)
    (made : daily hour minute = .ok period ∨ everyWeek weekday hour minute = .ok period)
    (offset : Int) (near : offset.natAbs < 86400) :
    (∀ instant, WallClock.inCalendar instant = true →
      (period.isDueAt offset instant = true ↔
        ∃ start, period.Opens offset start ∧ start ≤ instant ∧ instant < start + 60)) ∧
      (∃ origin, ∀ start, period.Opens offset start ↔
        ∃ round : Int, start = origin + period.span * round) ∧
      (∀ first, WallClock.inCalendar first = true →
        WallClock.inCalendar (first + period.span - 1) = true →
        ((Finset.Ico first (first + period.span)).filter fun instant =>
          period.isDueAt offset instant = true).card = 60) ∧
      ∀ start, period.Opens offset start → ∀ first ≤ start, ∃ index : Nat, ∀ other : Nat,
        (start ≤ tick first other ∧ tick first other < start + 60) ↔
          other = index ∨ other = index + 1 := by
  have inRange : period.IsInRange := by
    rcases made with made | made
    · exact (checked_eq_ok_iff.mp made).2
    · exact (checked_eq_ok_iff.mp made).2
  obtain ⟨origin, _, _, opens⟩ := exists_opening inRange offset
  refine ⟨fun instant known => isDueAt_iff_opens inRange near known, ⟨origin, opens⟩, ?_, ?_⟩
  · intro first begins ends
    exact card_due inRange near begins ends
  · intro start _ first before
    exact ticks_in_window before

theorem due_seconds_recur_on_sundays :
    let period : Period := ⟨.sunday, 23, 59, true⟩
    everyWeek .sunday 23 59 = .ok period ∧ period.isDueAt 20700 (-279901) = true ∧
      (∃ start, period.Opens 20700 start ∧ start ≤ -279901 ∧ -279901 < start + 60) ∧
      ((Finset.Ico (-700000 : Int) (-700000 + 604800)).filter fun instant =>
        period.isDueAt 20700 instant = true).card = 60 ∧
      ∃ index : Nat, ∀ other : Nat,
        (-279960 ≤ tick (-1000007) other ∧ tick (-1000007) other < -279900) ↔
          other = index ∨ other = index + 1 := by
  intro period
  have made : everyWeek .sunday 23 59 = .ok period := rfl
  have due : period.isDueAt 20700 (-279901) = true := by decide +kernel
  have opens : period.Opens 20700 (-279960) := ⟨rfl, rfl, rfl, fun _ => rfl⟩
  obtain ⟨windows, _, sixty, twice⟩ :=
    due_seconds_recur period .sunday 23 59 (.inr made) 20700 (by decide)
  refine ⟨made, due, (windows _ (by decide +kernel)).mp due, ?_, ?_⟩
  · exact sixty (-700000) (by decide +kernel) (by decide +kernel)
  · exact twice (-279960) opens (-1000007) (by decide)

end Period

end LiveService
