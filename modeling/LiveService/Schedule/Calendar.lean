import LiveService.Json.Record

/-!
Weekdays and wall clocks.  A wall clock shows an instant, counted in seconds from the start of 1970,
in a zone with a fixed offset from universal time.
-/

namespace LiveService

inductive Weekday where
  | monday
  | tuesday
  | wednesday
  | thursday
  | friday
  | saturday
  | sunday
  deriving DecidableEq

namespace Weekday

def all : List Weekday := [monday, tuesday, wednesday, thursday, friday, saturday, sunday]

def ofIndex (index : Nat) : Weekday :=
  match index % 7 with
  | 0 => monday
  | 1 => tuesday
  | 2 => wednesday
  | 3 => thursday
  | 4 => friday
  | 5 => saturday
  | _ => sunday

def fullName : Weekday → String
  | monday => "Monday"
  | tuesday => "Tuesday"
  | wednesday => "Wednesday"
  | thursday => "Thursday"
  | friday => "Friday"
  | saturday => "Saturday"
  | sunday => "Sunday"

def shortName : Weekday → String
  | monday => "Mon"
  | tuesday => "Tue"
  | wednesday => "Wed"
  | thursday => "Thu"
  | friday => "Fri"
  | saturday => "Sat"
  | sunday => "Sun"

def folded (name : String) : List Char := name.toList.map Char.toLower

def ofName? (name : String) : Option Weekday :=
  all.find? fun day => folded name == folded day.shortName || folded name == folded day.fullName

def codec : Codec Weekday where
  read _ node :=
    match node with
    | .text literal =>
      match literal.text with
      | .error error => .error error
      | .ok name =>
        match ofName? name with
        | some day => .ok day
        | none => .error (.mismatch .notAWeekday)
    | other => other.expecting "Weekday"
  write day := .text day.shortName

end Weekday

structure WallClock where
  weekday : Weekday
  hour : Nat
  minute : Nat

namespace WallClock

def daysBeforeYear (year : Int) : Int :=
  let past := year - 1
  365 * past + past / 4 - past / 100 + past / 400

def firstYear : Int := -262143

def lastYear : Int := 262142

def dayOf (seconds : Int) : Int := seconds / 86400

def inCalendar (seconds : Int) : Bool :=
  let day := dayOf seconds + daysBeforeYear 1970
  daysBeforeYear firstYear ≤ day && day < daysBeforeYear (lastYear + 1)

/-- The clock at an instant; the first of January 1970 was a Thursday. -/
def read (seconds offset : Int) : WallClock :=
  let shown := seconds + offset
  let second := (shown % 86400).toNat
  { weekday := .ofIndex ((dayOf shown + 3) % 7).toNat
    hour := second / 3600
    minute := second / 60 % 60 }

/-- The clock at an instant of the calendar, in a zone less than a day away from universal time. -/
def at? (seconds offset : Int) : Option WallClock :=
  if inCalendar seconds && offset.natAbs < 86400 then some (read seconds offset) else none

end WallClock

end LiveService
