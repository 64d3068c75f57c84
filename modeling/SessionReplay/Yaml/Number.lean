import SessionReplay.Number.Arithmetic
import SessionReplay.Number.Reading
import SessionReplay.Text.Digit
import SessionReplay.Text.LowerCase
import SessionReplay.Text.Quoted
import SessionReplay.Yaml.Token.Basic

/-!
# Numbers in YAML text

What a scalar stands for that is an integer or a float. Underscores are only for the eye. In
version 1.1 a leading zero makes an integer octal, and colons separate digits of base sixty.
-/

namespace SessionReplay.Yaml

/-- The greatest number of decimal digits that are read as an integer. -/
def maxDigits : Nat := 4300

def digitIn? (base : Nat) (c : Char) : Option Nat :=
  (Text.hexDigit? c).filter (· < base)

def baseMark? : Nat → Option Char
  | 2 => some 'b'
  | 8 => some 'o'
  | 16 => some 'x'
  | _ => none

def dropBaseMark (base : Nat) : Text → Text
  | '0' :: c :: rest => if some c.toLower = baseMark? base then rest else '0' :: c :: rest
  | digits => digits

def readInteger (base : Nat) (text : Text) : Except DataFault Int :=
  let (negative, digits) := Text.takeSign (Text.numeralText text)
  let digits := dropBaseMark base digits
  let count := (digits.takeWhile fun c => (digitIn? base c).isSome).length
  if base = 10 ∧ maxDigits < count then .error (.tooManyDigits count)
  else
    match digits.foldlM (fun n c => (digitIn? base c).map (base * n + ·)) 0 with
    | some n =>
      if digits.isEmpty then .error (.notInteger base text)
      else .ok (if negative then -(n : Int) else n)
    | none => .error (.notInteger base text)

def readFloat (text : Text) : Except DataFault Double :=
  match Double.ofText? (Text.numeralText text) with
  | some x => .ok x
  | none => .error (.notFloat text)

def dropUnderscores (text : Text) : Text := text.filter (· != '_')

def unsignedInteger (version : Version) (text : Text) : Except DataFault Int :=
  match text with
  | '0' :: 'b' :: digits => readInteger 2 digits
  | '0' :: 'x' :: digits => readInteger 16 digits
  | '0' :: 'o' :: digits => readInteger 8 digits
  | ['0'] => .ok 0
  | _ =>
    if version.isOld then
      if text.isEmpty then .error .emptyNumber
      else if text.head? = some '0' then readInteger 8 text
      else if text.any (· == ':') then do
        let parts ← (text.splitOn ':').mapM (readInteger 10)
        .ok (parts.foldl (fun n part => 60 * n + part) 0)
      else readInteger 10 text
    else readInteger 10 text

def integerOf (version : Version) (text : Text) : Except DataFault Int :=
  let text := dropUnderscores text
  if text.isEmpty then .error .emptyNumber
  else
    let (negative, rest) := Text.takeSign text
    (unsignedInteger version rest).map fun n => if negative then -n else n

/-- Digits of base sixty, the last one first, each with the power that it counts for. -/
def sumOfSixties : List Double → Nat → Double → Except DataFault Double
  | [], _, sum => .ok sum
  | digit :: rest, power, sum =>
    match Double.ofInt? (60 ^ power : Nat) with
    | some weight => sumOfSixties rest (power + 1) (sum.add (digit.mul weight))
    | none => .error .floatOverflow

def unsignedFloat (version : Version) (text : Text) : Except DataFault Double :=
  if text = ".inf" then .ok (.infinite false)
  else if text = ".nan" then .ok .nan
  else if version ≠ .standard ∧ text.any (· == ':') then do
    let digits ← (text.splitOn ':').mapM readFloat
    sumOfSixties digits.reverse 0 (.ofRatio false 0 1)
  else if version ≠ .standard ∧ 2 ≤ text.count 'e' then .error .secondExponent
  else readFloat text

/-- The text of a float, as far as it counts. -/
def floatText (text : Text) : Text := Text.lower (dropUnderscores text)

def isNanWord (text : Text) : Bool := (Text.takeSign (floatText text)).2 = ".nan"

def floatOf (version : Version) (text : Text) : Except DataFault Double :=
  let text := floatText text
  if text.isEmpty then .error .emptyNumber
  else
    let (negative, rest) := Text.takeSign text
    (unsignedFloat version rest).map fun x => if negative then x.negate else x

end SessionReplay.Yaml
