import SessionReplay.Number.Double
import SessionReplay.Text.Basic

/-!
# Reading decimals

The double that a decimal text stands for: an optional sign, digits with at most one point among
them, an optional power of ten; or a name for an infinity or for NaN, in any case.
-/

namespace SessionReplay

/-- Takes a sign off the front of a text; the first part tells whether it is a minus. -/
def Text.takeSign : Text → Bool × Text
  | '-' :: rest => (true, rest)
  | '+' :: rest => (false, rest)
  | text => (false, text)

def Text.takeDigits (text : Text) : Text × Text :=
  (text.takeWhile Char.isDigit, text.dropWhile Char.isDigit)

/-- An integer in decimal: an optional sign and at least one digit. -/
def Text.toInt? (text : Text) : Option Int :=
  let (negative, digits) := Text.takeSign text
  if digits.isEmpty || !digits.all Char.isDigit then none
  else
    let n : Int := Text.digitsValue digits
    some (if negative then -n else n)

namespace Double

/-- The power of ten behind a number: nothing, or the letter `e` and an integer. -/
def power? : Text → Option Int
  | [] => some 0
  | c :: rest => if c == 'e' || c == 'E' then Text.toInt? rest else none

def magnitude? (negative : Bool) (text : Text) : Option Double :=
  let (whole, rest) := Text.takeDigits text
  let (fraction, rest) := match rest with
    | '.' :: rest => Text.takeDigits rest
    | _ => ([], rest)
  if whole.isEmpty && fraction.isEmpty then none
  else
    (power? rest).map fun power =>
      ofDecimal negative (Text.digitsValue (whole ++ fraction)) (power - fraction.length)

def ofText? (text : Text) : Option Double :=
  let (negative, rest) := Text.takeSign text
  let name := Text.lowerAscii rest
  if name = "nan" then some .nan
  else if name = "inf" ∨ name = "infinity" then some (.infinite negative)
  else magnitude? negative rest

end Double
end SessionReplay
