import SessionReplay.Number.Shortest
import SessionReplay.Text.Printable
import SessionReplay.Value.Basic

/-!
# Showing values in messages

How a value is shown to the author of a recording, in a message about it: a text on its own as it
is, and within quotes where it is part of something else.
-/

namespace SessionReplay

namespace Text

/-- Whether a text is shown in double quotes: only when that saves escaping its single quotes. -/
def prefersDoubleQuotes (text : Text) : Bool := text.any (· == '\'') && !text.any (· == '"')

/-- A character within quotes. What is not printable is written by its code point. -/
def showChar (mark c : Char) : Text :=
  if c == mark || c == '\\' then ['\\', c]
  else if c == '\n' then "\\n"
  else if c == '\r' then "\\r"
  else if c == '\t' then "\\t"
  else if isPrintable c then [c]
  else if c.toNat < 0x100 then "\\x" ++ hex 2 c.toNat
  else if c.toNat < 0x10000 then "\\u" ++ hex 4 c.toNat
  else "\\U" ++ hex 8 c.toNat

def shown (text : Text) : Text :=
  let mark := if text.prefersDoubleQuotes then '"' else '\''
  mark :: text.flatMap (showChar mark) ++ [mark]

/-- Bytes within quotes, the ASCII characters among them as such. -/
def shownBytes (data : List UInt8) : Text :=
  let chars := data.map fun byte => Char.ofNat byte.toNat
  let mark := if Text.prefersDoubleQuotes chars then '"' else '\''
  let byteShown (c : Char) : Text :=
    if c.toNat < 0x7F then showChar mark c else "\\x" ++ hex 2 c.toNat
  'b' :: mark :: chars.flatMap byteShown ++ [mark]

end Text

def Date.numeral (date : Date) : Text :=
  Text.padded 4 date.year ++ "-" ++ Text.padded 2 date.month ++ "-" ++ Text.padded 2 date.day

/-- The distance from universal time in hours and minutes. -/
def Zone.numeral (zone : Zone) : Text :=
  let minutes := zone.minutes.natAbs
  (if zone.minutes < 0 then '-' else '+') :: Text.padded 2 (minutes / 60) ++ ":" ++
    Text.padded 2 (minutes % 60)

/-- Date and time of day; a fraction of a second only if there is one. -/
def Moment.numeral (time : Moment) : Text :=
  let fraction : Text :=
    if time.microsecond = 0 then [] else "." ++ Text.padded 6 time.microsecond
  time.date.numeral ++ " " ++ Text.padded 2 time.hour ++ ":" ++ Text.padded 2 time.minute ++ ":" ++
    Text.padded 2 time.second ++ fraction ++ (time.zone.map Zone.numeral).getD []

def Date.parts (date : Date) : List Text :=
  [Text.ofNat date.year, Text.ofNat date.month, Text.ofNat date.day]

/-- A span of minutes, in days and seconds of which only the days can be negative. -/
def durationText (minutes : Int) : Text :=
  let days := minutes / 1440
  let seconds := minutes % 1440 * 60
  let parts : List Text :=
    (if days = 0 then [] else ["days=" ++ Text.ofInt days]) ++
      (if seconds = 0 then [] else ["seconds=" ++ Text.ofInt seconds])
  "datetime.timedelta(" ++ (if parts.isEmpty then "0".toList else Text.join ", " parts) ++ ")"

def Zone.shown (zone : Zone) : Text :=
  "tzinfo=datetime.timezone(" ++ durationText zone.minutes ++ ", " ++ zone.name.shown ++ ")"

/-- The parts of a moment, to be listed; a zero fraction, and zero seconds before it, are left out. -/
def Moment.parts (time : Moment) : List Text :=
  let seconds :=
    if time.microsecond ≠ 0 then [Text.ofNat time.second, Text.ofNat time.microsecond]
    else if time.second ≠ 0 then [Text.ofNat time.second]
    else []
  time.date.parts ++ [Text.ofNat time.hour, Text.ofNat time.minute] ++ seconds ++
    (time.zone.map Zone.shown).toList

namespace Value

def kind : Value → Text
  | .null => "NoneType"
  | .bool _ => "bool"
  | .int _ => "int"
  | .float _ => "float"
  | .text _ => "str"
  | .bytes _ => "bytes"
  | .date _ => "datetime.date"
  | .moment _ => "datetime.datetime"
  | .list _ => "list"
  | .tuple _ => "tuple"
  | .set _ => "set"
  | .dict _ => "dict"
  | .ordered _ => "ordereddict"

/-- A tuple of one item is told from brackets by a comma. -/
def tupleText : List Text → Text
  | [item] => "(" ++ item ++ ",)"
  | items => "(" ++ Text.join ", " items ++ ")"

mutual

def shown : Value → Text
  | .null => "None"
  | .bool b => if b then "True".toList else "False".toList
  | .int n => Text.ofInt n
  | .float x => x.numeral
  | .text t => Text.shown t
  | .bytes data => Text.shownBytes data
  | .date day => "datetime.date(" ++ Text.join ", " day.parts ++ ")"
  | .moment time => "datetime.datetime(" ++ Text.join ", " time.parts ++ ")"
  | .list items => "[" ++ Text.join ", " (shownItems items) ++ "]"
  | .tuple items => tupleText (shownItems items)
  | .set [] => "set()"
  | .set items => "\x7b" ++ Text.join ", " (shownItems items) ++ "\x7d"
  | .dict entries => "\x7b" ++ Text.join ", " (shownEntries entries) ++ "\x7d"
  | .ordered [] => "ordereddict()"
  | .ordered entries => "ordereddict([" ++ Text.join ", " (shownPairs entries) ++ "])"
termination_by structural value => value

def shownItems : List Value → List Text
  | [] => []
  | item :: rest => shown item :: shownItems rest
termination_by structural items => items

def shownEntries : List (Value × Value) → List Text
  | [] => []
  | (key, value) :: rest => (shown key ++ ": " ++ shown value) :: shownEntries rest
termination_by structural entries => entries

def shownPairs : List (Value × Value) → List Text
  | [] => []
  | (key, value) :: rest => tupleText [shown key, shown value] :: shownPairs rest
termination_by structural entries => entries

end

def display : Value → Text
  | .text t => t
  | .date day => day.numeral
  | .moment time => time.numeral
  | value => value.shown

end Value
end SessionReplay
