import LiveService.Config.Service
import LiveService.Log.Filter
import LiveService.Store.Event

/-!
What follows the configuration besides the listener: the level of the log and the refresh schedule.
-/

namespace LiveService

inductive Adjustment where
  | level (level : String)
  | scheduled (period : Period)
  | unscheduled
  /-- The level that an event brings cannot be set, and so the rest of it is not applied. -/
  | abandoned (event : String)

/-- The level that was applied last, if the log follows the configuration at all; the period of the
schedule if there is one; and what has been done so far. -/
structure Settings where
  followsLevel : Bool
  level : Option String := none
  schedule : Option Period := none
  adjustments : List Adjustment := []

namespace Settings

def scheduleOf (config : ServiceConfig) : Option Period :=
  if config.refresh.enabled then some config.refresh.period else none

def adjusted (settings : Settings) (adjustment : Adjustment) : Settings :=
  { settings with adjustments := settings.adjustments ++ [adjustment] }

def setLevel? (settings : Settings) (level : String) : Option Settings :=
  if settings.followsLevel then
    (Filter.ofLevel level).toOption.map fun _ =>
      { settings with level := some level }.adjusted (.level level)
  else some settings

def setSchedule (settings : Settings) (schedule : Option Period) : Settings :=
  { settings with schedule := schedule }.adjusted
    (schedule.elim .unscheduled .scheduled)

def adopt? (settings : Settings) (config : ServiceConfig) : Option Settings :=
  (settings.setLevel? config.observability.logLevel).map fun settings =>
    if config.refresh.enabled then settings.setSchedule (scheduleOf config) else settings

def change (settings : Settings) (event : String) (previous current : ServiceConfig) : Settings :=
  let leveled :=
    if previous.observability.logLevel = current.observability.logLevel then some settings
    else settings.setLevel? current.observability.logLevel
  match leveled with
  | none => settings.adjusted (.abandoned event)
  | some settings =>
    if previous.refresh = current.refresh then settings else settings.setSchedule (scheduleOf current)

def follow (event : Event ServiceConfig) (settings : Settings) : Settings :=
  match event with
  | .modified _ previous current _ => settings.change event.word previous current
  | .restored _ restored discarded => settings.change event.word discarded restored
  | .canceled _ => settings

end Settings

end LiveService
