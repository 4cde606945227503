import Denylist.Decimal.Digits
import Denylist.Sum

/-!
# Dates and times of day

The calendar values a config document or a fact file may hold.  The analysis never computes with
them; they only have to be told apart from text, checked against the proleptic Gregorian calendar
and shown in messages.
-/

namespace Denylist

/-- A calendar day. -/
structure Date where
  /-- The year, from 1 to 9999 in a date that exists. -/
  year : Nat
  /-- The month, from 1. -/
  month : Nat
  /-- The day of the month, from 1. -/
  day : Nat
deriving DecidableEq, Repr

/-- A time of day. -/
structure TimeOfDay where
  /-- The hour. -/
  hour : Nat
  /-- The minute. -/
  minute : Nat
  /-- The second. -/
  second : Nat
  /-- The millionths of a second. -/
  micro : Nat
deriving DecidableEq, Repr

/-- A time of day on a date, with or without its distance from universal time. -/
structure Moment where
  /-- The day. -/
  date : Date
  /-- The time of day. -/
  time : TimeOfDay
  /-- Seconds east of universal time, where the text gave an offset. -/
  offset : Option Int
deriving DecidableEq, Repr

/-- Whether February has 29 days. -/
def isLeapYear (y : Nat) : Bool := y % 4 == 0 && (y % 100 != 0 || y % 400 == 0)

/-- The number of days of a month. -/
def daysInMonth (year month : Nat) : Nat :=
  if month == 2 then (if isLeapYear year then 29 else 28)
  else if month == 4 || month == 6 || month == 9 || month == 11 then 30
  else 31

/-- What keeps a date or a time of day from existing. -/
inductive CalendarFault where
  /-- The year is zero. -/
  | year (n : Nat)
  /-- The month is not one of the twelve. -/
  | month
  /-- The month has no such day. -/
  | day
  /-- The hour is not below 24. -/
  | hour
  /-- The minute is not below 60. -/
  | minute
  /-- The second is not below 60. -/
  | second
  /-- The offset from universal time reaches a whole day. -/
  | offset (shown : String)
deriving DecidableEq, Repr

/-- The text of a calendar fault. -/
def CalendarFault.message : CalendarFault → String
  | .year n => s!"year {n} is out of range"
  | .month => "month must be in 1..12"
  | .day => "day is out of range for month"
  | .hour => "hour must be in 0..23"
  | .minute => "minute must be in 0..59"
  | .second => "second must be in 0..59"
  | .offset shown => "offset must be a timedelta strictly between -timedelta(hours=24) and " ++
      s!"timedelta(hours=24), not {shown}."

/-- The date, if the calendar has it. -/
def Date.check (d : Date) : Except CalendarFault Date :=
  if d.year < 1 || 9999 < d.year then .error (.year d.year)
  else if d.month < 1 || 12 < d.month then .error .month
  else if d.day < 1 || daysInMonth d.year d.month < d.day then .error .day
  else .ok d

/-- The time of day, if the day has it. -/
def TimeOfDay.check (t : TimeOfDay) : Except CalendarFault TimeOfDay :=
  if 23 < t.hour then .error .hour
  else if 59 < t.minute then .error .minute
  else if 59 < t.second then .error .second
  else .ok t

/-! ### Instants -/

/-- The number of days before a date in the calendar. -/
def Date.daysBefore (d : Date) : Nat :=
  let years := d.year - 1
  let months := (List.range (d.month - 1)).map fun m => daysInMonth d.year (m + 1)
  365 * years + years / 4 - years / 100 + years / 400 + sumOf months + (d.day - 1)

/-- The millionths of a second between the start of the calendar and a date with a time of day. -/
def Moment.micros (m : Moment) : Nat :=
  let t := m.time
  (((m.date.daysBefore * 24 + t.hour) * 60 + t.minute) * 60 + t.second) * 1000000 + t.micro

/-- Whether two moments are the same.  Those with an offset from universal time are if they are the
same instant. -/
def Moment.same (a b : Moment) : Bool :=
  match a.offset, b.offset with
  | none, none => a == b
  | some m, some n => (a.micros : Int) - m * 1000000 == (b.micros : Int) - n * 1000000
  | _, _ => false

example : Date.daysBefore ⟨1970, 1, 1⟩ = 719162 := by decide
example : Moment.same ⟨⟨2024, 3, 1⟩, ⟨0, 30, 0, 0⟩, some 3600⟩
    ⟨⟨2024, 2, 29⟩, ⟨23, 30, 0, 0⟩, some 0⟩ = true := by decide

/-! ### Plain text -/

/-- The text of digits padded to a width. -/
def paddedText (width n : Nat) : String := String.ofList (Decimal.padded width n)

/-- Year, month and day with hyphens. -/
def Date.text (d : Date) : String :=
  paddedText 4 d.year ++ "-" ++ paddedText 2 d.month ++ "-" ++ paddedText 2 d.day

/-- Hours, minutes and seconds with colons, and the millionths if there are any. -/
def TimeOfDay.text (t : TimeOfDay) : String :=
  paddedText 2 t.hour ++ ":" ++ paddedText 2 t.minute ++ ":" ++ paddedText 2 t.second ++
    (if t.micro = 0 then "" else "." ++ paddedText 6 t.micro)

/-- An offset as signed hours and minutes, and seconds if there are any. -/
def offsetText (seconds : Int) : String :=
  let n := seconds.natAbs
  (if seconds < 0 then "-" else "+") ++ paddedText 2 (n / 3600) ++ ":" ++
    paddedText 2 (n / 60 % 60) ++ (if n % 60 = 0 then "" else ":" ++ paddedText 2 (n % 60))

/-- Date, blank, time of day and offset. -/
def Moment.text (m : Moment) : String :=
  m.date.text ++ " " ++ m.time.text ++ (m.offset.map offsetText).getD ""

/-! ### Construction notation -/

/-- Numbers separated by commas. -/
def commaNumbers (l : List Nat) : String := ", ".intercalate (l.map toString)

/-- The date as the call that makes it. -/
def Date.notated (d : Date) : String :=
  s!"datetime.date({commaNumbers [d.year, d.month, d.day]})"

/-- The time of day as the call that makes it; zero seconds are left out. -/
def TimeOfDay.notated (t : TimeOfDay) : String :=
  let parts :=
    if t.micro ≠ 0 then [t.hour, t.minute, t.second, t.micro]
    else if t.second ≠ 0 then [t.hour, t.minute, t.second]
    else [t.hour, t.minute]
  s!"datetime.time({commaNumbers parts})"

/-- A span of time as the call that makes it: whole days, and seconds of at least zero. -/
def spanNotated (seconds : Int) : String :=
  let days := seconds.fdiv 86400
  let rest := seconds.fmod 86400
  let parts := (if days = 0 then [] else [s!"days={days}"]) ++
    (if rest = 0 then [] else [s!"seconds={rest}"])
  let inner := if parts.isEmpty then "0" else ", ".intercalate parts
  s!"datetime.timedelta({inner})"

/-- An offset from universal time as the call that makes it. -/
def offsetNotated (seconds : Int) : String :=
  if seconds = 0 then "datetime.timezone.utc" else s!"datetime.timezone({spanNotated seconds})"

/-- The moment as the call that makes it; zero seconds are left out. -/
def Moment.notated (m : Moment) : String :=
  let t := m.time
  let clock :=
    if t.micro ≠ 0 then [t.hour, t.minute, t.second, t.micro]
    else if t.second ≠ 0 then [t.hour, t.minute, t.second]
    else [t.hour, t.minute]
  let zone := (m.offset.map fun o => ", tzinfo=" ++ offsetNotated o).getD ""
  let numbers := commaNumbers ([m.date.year, m.date.month, m.date.day] ++ clock)
  s!"datetime.datetime({numbers}{zone})"

end Denylist
