import LiveService.Config.Validation
import LiveService.Proofs.Config.RoundTrip
import LiveService.Proofs.Schedule.Recurrence
import LiveService.Service.Settings

/-!
Which schedules ever fire.  A period fires just if every day has its minute, and that is what making a period
checks; a period that was read from a file has been through no such check.
-/

namespace LiveService

namespace Period

variable {period : Period} {offset instant : Int}

theorem isInRange_of_isDueAt (due : period.isDueAt offset instant = true) : period.IsInRange := by
  simp only [isDueAt, WallClock.at?] at due
  split at due
  · simp only [Option.any_some, isDue, WallClock.read, Bool.and_eq_true, beq_iff_eq] at due
    exact ⟨by omega, by omega⟩
  · cases due

theorem exists_due_iff (near : offset.natAbs < 86400) :
    (∃ instant, period.isDueAt offset instant = true) ↔ period.IsInRange := by
  constructor
  · rintro ⟨instant, due⟩
    exact isInRange_of_isDueAt due
  · intro inRange
    obtain ⟨origin, least, most, opens⟩ := exists_opening inRange offset
    have begins : WallClock.inCalendar 0 = true := rfl
    have ends : WallClock.inCalendar 604800 = true := rfl
    have known : WallClock.inCalendar origin = true :=
      WallClock.inCalendar_between begins ends least most.le
    have opening : period.Opens offset origin := (opens origin).mpr ⟨0, by omega⟩
    exact ⟨origin, (isDueAt_iff_opens inRange near known).mpr ⟨origin, opening, by omega, by omega⟩⟩

end Period

/-- A schedule that stands in an accepted file fires at some time just if a period with its hour and minute can
be made.  Not all can: validation accepts a schedule with any period whatever. -/
theorem ServiceConfig.accepted_schedule_fires_iff (offset : Int) (near : offset.natAbs < 86400) :
    (∀ content config period, codec.decode content = .ok config → config.violations = [] →
      Settings.scheduleOf config = some period →
      ((∃ instant, period.isDueAt offset instant = true) ↔
        Period.checked period.weekday period.hour period.minute period.weekly = .ok period)) ∧
      ∀ period, ∃ content config, codec.decode content = .ok config ∧ config.violations = [] ∧
        Settings.scheduleOf config = some period := by
  constructor
  · intro content config period _ _ _
    rw [Period.exists_due_iff near, Period.checked_eq_ok_iff]
    exact ⟨fun inRange => ⟨rfl, inRange⟩, And.right⟩
  · intro period
    let config : ServiceConfig := { refresh := ⟨true, period⟩ }
    have accepted : config.violations = [] := by
      change ({} : ServiceConfig).violations = []
      decide +kernel
    exact ⟨codec.encode config, config, config.restores.decode_encode (by decide), accepted, rfl⟩

theorem ServiceConfig.accepted_schedule_fires_iff_before_midnight :
    let content := Text.bytes
      "\x7b\"refresh\": [true, [\"sunday\", 23, 59, false]], \"greeting\": \"\"\x7d"
    let period : Period := ⟨.sunday, 23, 59, false⟩
    ∃ config, codec.decode content = .ok config ∧ config.violations = [] ∧
      Settings.scheduleOf config = some period ∧
      (∃ instant, period.isDueAt 50400 instant = true) ∧
      ∃ content config, codec.decode content = .ok config ∧ config.violations = [] ∧
        Settings.scheduleOf config = some ⟨.monday, 0, 60, true⟩ := by
  intro content period
  let config : ServiceConfig := { refresh := ⟨true, period⟩, greeting := "" }
  have decoded : codec.decode content = .ok config := rfl
  have accepted : config.violations = [] := by decide +kernel
  obtain ⟨fires, anything⟩ := accepted_schedule_fires_iff 50400 (by decide)
  exact ⟨config, decoded, accepted, rfl, (fires content config period decoded accepted rfl).mpr rfl,
    anything ⟨.monday, 0, 60, true⟩⟩

/-- An accepted file with a schedule at an hour that no day has. -/
theorem ServiceConfig.accepted_schedule_never_fires :
    let content := Text.bytes
      "\x7b\"refresh\": \x7b\"enabled\": true, \"period\": \x7b\"day_of_week\": \"Mon\", \"hour\": 24, \"minute\": 0, \"weekly\": false\x7d\x7d\x7d"
    ∃ config, codec.decode content = .ok config ∧ config.violations = [] ∧
      Settings.scheduleOf config = some ⟨.monday, 24, 0, false⟩ ∧
      Period.daily 24 0 = .error (.hour 24) ∧
      ∀ offset instant, config.refresh.period.isDueAt offset instant = false := by
  intro content
  let config : ServiceConfig := { refresh := ⟨true, ⟨.monday, 24, 0, false⟩⟩ }
  refine ⟨config, rfl, by decide +kernel, rfl, rfl, fun offset instant => ?_⟩
  by_contra due
  have inRange := Period.isInRange_of_isDueAt (Bool.not_eq_false _ ▸ due)
  exact absurd inRange.hour (by decide)

end LiveService
