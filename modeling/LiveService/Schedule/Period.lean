import LiveService.Schedule.Calendar

/-!
Recurring points in time: a minute of every day, or of one weekday.
-/

namespace LiveService

/-- `weekday` counts only when the period is weekly. -/
structure Period where
  weekday : Weekday
  hour : UInt32
  minute : UInt32
  weekly : Bool
  deriving DecidableEq

inductive PeriodError where
  | hour (value : UInt32)
  | minute (value : UInt32)
  deriving DecidableEq

def PeriodError.message : PeriodError → String
  | .hour value => "hour " ++ Text.decimal value.toNat ++ " is out of range (0-23)"
  | .minute value => "minute " ++ Text.decimal value.toNat ++ " is out of range (0-59)"

namespace Period

def checked (weekday : Weekday) (hour minute : UInt32) (weekly : Bool) : Except PeriodError Period :=
  if 23 < hour then .error (.hour hour)
  else if 59 < minute then .error (.minute minute)
  else .ok ⟨weekday, hour, minute, weekly⟩

def daily (hour minute : UInt32) : Except PeriodError Period := checked .monday hour minute false

def everyWeek (weekday : Weekday) (hour minute : UInt32) : Except PeriodError Period :=
  checked weekday hour minute true

def standard : Period := ⟨.sunday, 3, 0, false⟩

def isDue (period : Period) (clock : WallClock) : Bool :=
  clock.hour == period.hour.toNat && clock.minute == period.minute.toNat &&
    (!period.weekly || clock.weekday == period.weekday)

def isDueAt (period : Period) (offset instant : Int) : Bool :=
  (WallClock.at? instant offset).any period.isDue

def tickSeconds : Int := 30

def tick (first : Int) (index : Nat) : Int := first + tickSeconds * index

def twoDigits (value : UInt32) : String :=
  (if value < 10 then "0" else "") ++ Text.decimal value.toNat

def describe (period : Period) : String :=
  (if period.weekly then "every " ++ period.weekday.shortName else "daily") ++ " at " ++
    twoDigits period.hour ++ ":" ++ twoDigits period.minute

def codec : Codec Period :=
  (Codec.record "Period"
    (.cons (.required "day_of_week" Weekday.codec) <|
     .cons (.required "hour" .word32) <|
     .cons (.required "minute" .word32) <|
     .cons (.required "weekly" .flag) .nil)).along
    (fun (weekday, hour, minute, weekly, ()) => ⟨weekday, hour, minute, weekly⟩)
    (fun period => (period.weekday, period.hour, period.minute, period.weekly, ()))

end Period

end LiveService
