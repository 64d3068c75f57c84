import SessionReplay.Text.Utf8
import SessionReplay.Value.Display
import SessionReplay.Yaml.Position

/-!
# What can be wrong with YAML text

A text may break the rules of YAML at a place, or at no particular place; its bytes may be no text
from some place on; and a scalar may claim to be data that it cannot be read as.
-/

namespace SessionReplay.Yaml

/-- Why a node is not the data that it claims to be. -/
inductive DataFault where
  /-- The text is no integer in the base. -/
  | notInteger (base : Nat) (text : Text)
  /-- There are too many digits. -/
  | tooManyDigits (count : Nat)
  /-- A number has no character. -/
  | emptyNumber
  | notFloat (text : Text)
  /-- A float has two exponents. -/
  | secondExponent
  /-- A digit of base sixty counts for more than any float. -/
  | floatOverflow
  | notBool (text : Text)
  | yearOutOfRange (year : Nat)
  | monthOutOfRange
  | dayOutOfRange
  | hourOutOfRange
  | minuteOutOfRange
  | secondOutOfRange
  /-- A clock is a day or more away from universal time. -/
  | zoneOutOfRange (minutes : Int)
  /-- The time is beyond the calendar. -/
  | timeOverflow
  /-- The rules of the version are not known. -/
  | unknownVersion (major minor : Nat)
  /-- A document names a version that is not known. -/
  | minorVersion (major minor : Nat)
  /-- A key has a part that cannot be part of a key. -/
  | keyPart (kind : Text)
  /-- A key of an ordered mapping stands twice. -/
  | repeatedKey
  /-- There is no character of the code point. -/
  | noCharacter
  /-- The code point is beyond all numbers for characters. -/
  | codeOverflow
  /-- A code point is half of a pair, and the other half is missing. No text holds it. -/
  | loneHalf (code : Nat)
  /-- A collection is part of itself. No data holds it. -/
  | endless
deriving DecidableEq, Repr

namespace DataFault

def message : DataFault → Text
  | .notInteger base text =>
    "invalid literal for int() with base " ++ Text.ofNat base ++ ": " ++ text.shown.take 200
  | .tooManyDigits count =>
    "Exceeds the limit (4300 digits) for integer string conversion: value has " ++
      Text.ofNat count ++ " digits; use sys.set_int_max_str_digits() to increase the limit"
  | .emptyNumber => "string index out of range"
  | .notFloat text => "could not convert string to float: " ++ text.shown
  | .secondExponent => "too many values to unpack (expected 2)"
  | .floatOverflow => "int too large to convert to float"
  | .notBool text => text.shown
  | .yearOutOfRange year => "year " ++ Text.ofNat year ++ " is out of range"
  | .monthOutOfRange => "month must be in 1..12"
  | .dayOutOfRange => "day is out of range for month"
  | .hourOutOfRange => "hour must be in 0..23"
  | .minuteOutOfRange => "minute must be in 0..59"
  | .secondOutOfRange => "second must be in 0..59"
  | .zoneOutOfRange minutes =>
    "offset must be a timedelta strictly between -timedelta(hours=24) and timedelta(hours=24), not " ++
      durationText minutes ++ "."
  | .timeOverflow => "date value out of range"
  | .unknownVersion major minor =>
    "(" ++ Text.ofNat major ++ ", " ++ Text.ofNat minor ++ ")"
  | .minorVersion major minor =>
    "version minor part can only be 2 or 1, got (" ++ Text.ofNat major ++ ", " ++ Text.ofNat minor ++
      ")"
  | .keyPart kind => "unhashable type: '" ++ kind ++ "'"
  | .repeatedKey => []
  | .noCharacter => "chr() arg not in range(0x110000)"
  | .codeOverflow => []
  | .loneHalf code => "half of a pair without the other half: " ++ Text.hex 4 code
  | .endless => "a collection is part of itself"

end DataFault

inductive Fault where
  /-- The rules are broken at a place. -/
  | syntaxAt (mark : Mark)
  /-- The rules are broken, and no place is known. -/
  | syntaxNowhere
  /-- The bytes behind the text so far are no text. -/
  | unreadable (fault : Text.Utf8Fault)
  | data (fault : DataFault)
deriving DecidableEq, Repr

end SessionReplay.Yaml
