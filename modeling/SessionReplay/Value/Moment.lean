import SessionReplay.Text.Basic

/-!
# Days and moments

Days of the calendar, and points in time to the microsecond. A moment may name how far its clock is
ahead of universal time; such moments are the same when they are the same instant, whatever their
clocks show. A moment that does not is only the same as one that reads the same.
-/

namespace SessionReplay

/-- A day of the calendar, which goes from the year 1 to the year 9999. -/
structure Date where
  year : Nat
  month : Nat
  day : Nat
deriving DecidableEq, Repr

namespace Date

def isLeapYear (year : Nat) : Bool := year % 4 == 0 && (year % 100 != 0 || year % 400 == 0)

def daysIn (year month : Nat) : Nat :=
  if month = 2 then (if isLeapYear year then 29 else 28)
  else if [4, 6, 9, 11].contains month then 30
  else 31

def daysBeforeYear (year : Nat) : Nat :=
  let past := year - 1
  365 * past + past / 4 - past / 100 + past / 400

/-- The number of the day, counted from the first day of the year 1. -/
def number (date : Date) : Nat :=
  (List.range (date.month - 1)).foldl (fun days month => days + daysIn date.year (month + 1))
    (daysBeforeYear date.year) + (date.day - 1)

/-- The next day; none follows the last day of the calendar. -/
def next? (date : Date) : Option Date :=
  if date.day < daysIn date.year date.month then some { date with day := date.day + 1 }
  else if date.month < 12 then some { date with month := date.month + 1, day := 1 }
  else if date.year < 9999 then some ⟨date.year + 1, 1, 1⟩
  else none

example : number ⟨1, 1, 1⟩ = 0 := by decide
example : number ⟨2001, 3, 1⟩ = number ⟨2001, 2, 28⟩ + 1 := by decide
example : number ⟨2000, 12, 31⟩ + 1 = number ⟨2001, 1, 1⟩ := by decide

end Date

/-- How far a clock is ahead of universal time, and how this is written. -/
structure Zone where
  minutes : Int
  name : Text
deriving DecidableEq, Repr

/-- A point in time: a day and a time of day, to the microsecond. -/
structure Moment where
  date : Date
  hour : Nat
  minute : Nat
  second : Nat
  microsecond : Nat
  zone : Option Zone
deriving DecidableEq, Repr

namespace Moment

/-- The number of minutes since the beginning of the calendar, by the moment's clock. -/
def clockMinutes (time : Moment) : Nat := 1440 * time.date.number + 60 * time.hour + time.minute

/-- The number of microseconds since the beginning of the calendar, by a clock that is `ahead`
minutes behind that of the moment. -/
def microseconds (time : Moment) (ahead : Int) : Int :=
  1000000 * (60 * (time.clockMinutes - ahead) + time.second) + time.microsecond

def same (a b : Moment) : Bool :=
  match a.zone, b.zone with
  | some x, some y => a.microseconds x.minutes == b.microseconds y.minutes
  | none, none => a == b
  | _, _ => false

def nextSecond? (time : Moment) : Option Moment :=
  if time.second < 59 then some { time with second := time.second + 1 }
  else if time.minute < 59 then some { time with second := 0, minute := time.minute + 1 }
  else if time.hour < 23 then some { time with second := 0, minute := 0, hour := time.hour + 1 }
  else time.date.next?.map fun date => { time with date, hour := 0, minute := 0, second := 0 }

end Moment
end SessionReplay
