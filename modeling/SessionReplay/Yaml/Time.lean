import SessionReplay.Number.Reading
import SessionReplay.Value.Basic
import SessionReplay.Yaml.Fault

/-!
# Written times

Days and points in time as YAML writes them: `2001-12-14`, or with a time of day behind a `T` or
blanks, `2001-12-14t21:59:43.10-05:00`. A time of day may name its distance from universal time.
-/

namespace SessionReplay.Yaml

structure WrittenClock where
  hour : Nat
  minute : Nat
  second : Nat
  /-- The digits behind the point. -/
  fraction : Text
  zone : Option Zone
deriving DecidableEq, Repr

structure WrittenTime where
  year : Nat
  month : Nat
  day : Nat
  /-- Whether the numbers of month and day have two digits each. -/
  padded : Bool
  clock : Option WrittenClock
deriving DecidableEq, Repr

namespace WrittenTime

/-- Takes the digits at the front of a text, at least `least` and no more than `most` of them. -/
def takeNumber (least most : Nat) (text : Text) : Option (Text × Text) :=
  let digits := (text.take most).takeWhile Char.isDigit
  if least ≤ digits.length then some (digits, text.drop digits.length) else none

def takeChar (c : Char) (text : Text) : Option Text := Text.dropFront? [c] text

/-- What is behind the time of day: nothing, `Z`, or a sign with hours and perhaps minutes. -/
def zone? (text : Text) : Option (Option Zone) :=
  if text.isEmpty then some none
  else
    let name := text.dropWhile isSpaceOrTab
    match name with
    | ['Z'] => some (some ⟨0, name⟩)
    | sign :: rest =>
      if sign == '+' || sign == '-' then do
        let (hours, rest) ← takeNumber 1 2 rest
        let minutes ←
          if rest.isEmpty then some []
          else do
            let (minutes, rest) ← takeNumber 2 2 (← takeChar ':' rest)
            if rest.isEmpty then some minutes else none
        let distance : Int := 60 * Text.digitsValue hours + Text.digitsValue minutes
        some (some ⟨if sign == '-' then -distance else distance, name⟩)
      else none
    | [] => none

def clock? (text : Text) : Option WrittenClock := do
  let (hour, rest) ← takeNumber 1 2 text
  let (minute, rest) ← takeNumber 2 2 (← takeChar ':' rest)
  let (second, rest) ← takeNumber 2 2 (← takeChar ':' rest)
  let (fraction, rest) := match rest with
    | '.' :: rest => Text.takeDigits rest
    | _ => ([], rest)
  let zone ← zone? rest
  some
    { hour := Text.digitsValue hour, minute := Text.digitsValue minute
      second := Text.digitsValue second, fraction, zone }

/-- What is behind the day: nothing, or a `T` or blanks and the time of day. -/
def clockBehind? : Text → Option (Option WrittenClock)
  | [] => some none
  | c :: rest =>
    if c == 'T' || c == 't' then (clock? rest).map some
    else if isSpaceOrTab c then (clock? (rest.dropWhile isSpaceOrTab)).map some
    else none

def ofText? (text : Text) : Option WrittenTime := do
  let (year, rest) ← takeNumber 4 4 text
  let (month, rest) ← takeNumber 1 2 (← takeChar '-' rest)
  let (day, rest) ← takeNumber 1 2 (← takeChar '-' rest)
  let clock ← clockBehind? rest
  some
    { year := Text.digitsValue year, month := Text.digitsValue month, day := Text.digitsValue day
      padded := month.length == 2 && day.length == 2, clock }

def date (written : WrittenTime) : Except DataFault Date :=
  if written.year = 0 then .error (.yearOutOfRange 0)
  else if written.month = 0 ∨ 12 < written.month then .error .monthOutOfRange
  else if written.day = 0 ∨ Date.daysIn written.year written.month < written.day then
    .error .dayOutOfRange
  else .ok ⟨written.year, written.month, written.day⟩

/-- Millionths of a second, rounded from the seventh digit; a million of them is possible. -/
def microseconds (fraction : Text) : Nat :=
  let digits := fraction.take 6
  let whole := Text.digitsValue digits * 10 ^ (6 - digits.length)
  match fraction.drop 6 with
  | c :: _ => if '4' < c then whole + 1 else whole
  | [] => whole

/-- The time of day on a day. A fraction that rounds up to a whole second carries over. -/
def moment (clock : WrittenClock) (date : Date) : Except DataFault Moment :=
  if 24 ≤ clock.hour then .error .hourOutOfRange
  else if 60 ≤ clock.minute then .error .minuteOutOfRange
  else if 60 ≤ clock.second then .error .secondOutOfRange
  else
    let micro := microseconds clock.fraction
    let time : Moment :=
      { date, hour := clock.hour, minute := clock.minute, second := clock.second
        microsecond := micro % 1000000, zone := clock.zone }
    if micro < 1000000 then .ok time else time.nextSecond?.elim (.error .timeOverflow) .ok

def checkZone (zone : Zone) : Except DataFault Unit :=
  if zone.minutes.natAbs < 1440 then .ok () else .error (.zoneOutOfRange zone.minutes)

/-- The data that the text stands for. The zone is looked at first. -/
def value (written : WrittenTime) : Except DataFault Value := do
  match written.clock with
  | none => .ok (.date (← written.date))
  | some clock =>
    clock.zone.forM checkZone
    .ok (.moment (← moment clock (← written.date)))

end WrittenTime
end SessionReplay.Yaml
