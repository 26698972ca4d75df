/-!
Dates and times of day of the proleptic Gregorian calendar, as a configuration file can hold them:
which are valid, and how they are shown.
-/

set_option autoImplicit false

namespace StepPipeline.Calendar

/-- A time of day, with the offset from universal time in minutes if one is given. -/
structure Clock where
  hour : Nat
  minute : Nat
  second : Nat
  microsecond : Nat
  offset : Option Int
  deriving DecidableEq, Repr

structure Moment where
  year : Nat
  month : Nat
  day : Nat
  clock : Option Clock
  deriving DecidableEq, Repr

inductive Fault where
  | year (n : Nat)
  | month
  | day
  | hour
  | minute
  | second
  | offset (minutes : Int)
  deriving DecidableEq, Repr

def isLeap (year : Nat) : Bool :=
  year % 4 == 0 && (year % 100 != 0 || year % 400 == 0)

def daysIn (year month : Nat) : Nat :=
  if month = 2 then (if isLeap year then 29 else 28)
  else if month = 4 ∨ month = 6 ∨ month = 9 ∨ month = 11 then 30
  else 31

def minutesPerDay : Nat := 1440

/-- The first thing that is wrong with a moment; its offset is looked at before its date. -/
def fault? (m : Moment) : Option Fault :=
  let offset := m.clock.bind fun c => c.offset
  match offset.filter fun o => minutesPerDay ≤ o.natAbs with
  | some o => some (.offset o)
  | none =>
    if m.year = 0 ∨ 9999 < m.year then some (.year m.year)
    else if m.month = 0 ∨ 12 < m.month then some .month
    else if m.day = 0 ∨ daysIn m.year m.month < m.day then some .day
    else m.clock.bind fun c =>
      if 23 < c.hour then some .hour
      else if 59 < c.minute then some .minute
      else if 59 < c.second then some .second
      else none

/-- The number of days up to a date, counted from the first day of the year one. -/
def daysUpTo (year month day : Nat) : Nat :=
  let past := year - 1
  let months := (List.range (month - 1)).foldl (fun days m => days + daysIn year (m + 1)) 0
  past * 365 + past / 4 - past / 100 + past / 400 + months + day

/-- The millionths of a second from the start of a time of day's date to it, in universal time if
its offset is known. -/
def Clock.elapsed (c : Clock) : Int :=
  let minutes : Int := c.hour * 60 + c.minute - c.offset.getD 0
  (minutes * 60 + c.second) * 1000000 + c.microsecond

def microsecondsPerDay : Int := minutesPerDay * 60 * 1000000

/-- Are two moments the same? Dates, times without an offset and times with one are of three
kinds; times with offsets are the same if they fall together in universal time. -/
def Moment.same (a b : Moment) : Bool :=
  let day (m : Moment) : Int := daysUpTo m.year m.month m.day
  match a.clock, b.clock with
  | none, none => day a == day b
  | some c, some d =>
    c.offset.isSome == d.offset.isSome &&
      day a * microsecondsPerDay + c.elapsed == day b * microsecondsPerDay + d.elapsed
  | _, _ => false

/-- A span of minutes as whole days and a non-negative rest in seconds. -/
def spanText (minutes : Int) : String :=
  let days := Int.fdiv minutes minutesPerDay
  let seconds := Int.fmod minutes minutesPerDay * 60
  let parts := (if days = 0 then [] else [s!"days={days}"]) ++
    (if seconds = 0 then [] else [s!"seconds={seconds}"])
  "datetime.timedelta(" ++ (if parts.isEmpty then "0" else ", ".intercalate parts) ++ ")"

def offsetText (minutes : Int) : String :=
  if minutes = 0 then "datetime.timezone.utc" else s!"datetime.timezone({spanText minutes})"

/-- The text of a moment: seconds and microseconds are left out while nothing but zeros follows. -/
def Moment.shown (m : Moment) : String :=
  let date := [m.year, m.month, m.day]
  match m.clock with
  | none => "datetime.date(" ++ ", ".intercalate (date.map toString) ++ ")"
  | some c =>
    let rest :=
      if c.microsecond ≠ 0 then [c.second, c.microsecond]
      else if c.second ≠ 0 then [c.second]
      else []
    let fields := (date ++ [c.hour, c.minute] ++ rest).map toString
    let zone := (c.offset.map fun o => "tzinfo=" ++ offsetText o).toList
    "datetime.datetime(" ++ ", ".intercalate (fields ++ zone) ++ ")"

def Fault.message : Fault → String
  | .year n => s!"year {n} is out of range"
  | .month => "month must be in 1..12"
  | .day => "day is out of range for month"
  | .hour => "hour must be in 0..23"
  | .minute => "minute must be in 0..59"
  | .second => "second must be in 0..59"
  | .offset minutes =>
    "offset must be a timedelta strictly between -timedelta(hours=24) and " ++
      s!"timedelta(hours=24), not {spanText minutes}."

end StepPipeline.Calendar
