import SessionReplay.Schema.Checked
import SessionReplay.Text.Blank
import SessionReplay.Text.Utf8
import SessionReplay.Value.Basic

/-!
# Reading texts, numbers and truth values

The data for a field may come in more than one form: a number as a text, a truth value as a number
or a word. A text is a text only.
-/

namespace SessionReplay

/-- The text that a value is, if it is one. Bytes count as the text that they encode. -/
def Value.asText? (unreadable : Cause) : Value → Option (Except Cause Text)
  | .text t => some (.ok t)
  | .bytes data =>
    match Text.ofUtf8 data with
    | .ok t => some (.ok t)
    | .error _ => some (.error unreadable)
  | _ => none

def checkText (value : Value) : Except Cause Text :=
  (value.asText? .notUnicode).getD (.error .notText)

def checkNullableText : Value → Except Cause (Option Text)
  | .null => .ok none
  | value => (checkText value).map some

/-! ### Integers -/

namespace IntText

/-- What follows leading zeros, `previous` being the character before. One zero stays if nothing
else does, or if a fraction follows; single underscores between zeros go with them. -/
def afterZeros? (previous : Char) : Text → Option Text
  | [] => some [previous]
  | c :: rest =>
    if c == '0' then afterZeros? '0' rest
    else if c == '_' then if previous == '_' then none else afterZeros? '_' rest
    else if c.isDigit then some (c :: rest)
    else if c == '.' then some (previous :: c :: rest)
    else none

/-- The text without leading zeros. Only a text that begins with a digit or a minus has a number to
show; behind a minus, zeros stay. -/
def dropZeros? : Text → Option Text
  | [] => none
  | c :: rest =>
    if c == '0' then afterZeros? '0' rest
    else if c.isDigit || c == '-' then some (c :: rest)
    else none

/-- The text without a plus sign at its front; a plus before a minus stays. -/
def dropPlus : Text → Text
  | '+' :: '-' :: rest => '+' :: '-' :: rest
  | '+' :: rest => rest
  | text => text

def dropFraction (text : Text) : Text :=
  match text.dropWhile (· != '.') with
  | _ :: fraction => if fraction.all (· == '0') then text.takeWhile (· != '.') else text
  | [] => text

/-- The text without underscores; one at an end, or two side by side, keep all of them. -/
def dropUnderscores (text : Text) : Text :=
  if text.head? == some '_' || text.getLast? == some '_' || Text.contains "__" text then text
  else text.filter (· != '_')

def maxDigits : Nat := 4300

def readDigits (digits : Text) : Except Cause Nat :=
  match digits with
  | [] => .error .unreadableInt
  | c :: rest =>
    if !digits.all Char.isDigit || (c == '0' && !rest.isEmpty) then .error .unreadableInt
    else if maxDigits < digits.length then .error .hugeInt
    else .ok (Text.digitsValue digits)

def read (text : Text) : Except Cause Int :=
  match dropZeros? (dropPlus (Text.stripWhere Text.isWhiteSpace text)) with
  | none => .error .unreadableInt
  | some text =>
    match dropUnderscores (dropFraction text) with
    | '-' :: digits => (readDigits digits).map fun n => -(n : Int)
    | digits => (readDigits digits).map Int.ofNat

end IntText

/-- The integer that a double is. Only integers of 64 bits are looked for. -/
def checkWhole (x : Double) : Except Cause Int :=
  match x with
  | .nan | .infinite _ => .error .notFinite
  | x =>
    match x.toInt? with
    | none => .error .fractionalInt
    | some n => if n.natAbs < 2 ^ 63 then .ok n else .error .hugeInt

def checkInt (value : Value) : Except Cause Int :=
  match value with
  | .int n => .ok n
  | .bool b => .ok (if b then 1 else 0)
  | .float x => checkWhole x
  | value =>
    match value.asText? .unreadableInt with
    | some text => text.bind IntText.read
    | none => .error .notInt

def checkAtLeast (bound : Nat) (value : Value) : Except Cause { n : Nat // bound ≤ n } :=
  (checkInt value).bind fun n =>
    if h : bound ≤ n.toNat ∧ 0 ≤ n then .ok ⟨n.toNat, h.1⟩ else .error (.below bound)

/-! ### Truth values -/

def trueWords : List Text := ["1", "on", "t", "true", "y", "yes"]

def falseWords : List Text := ["0", "off", "f", "false", "n", "no"]

def readBool (text : Text) : Except Cause Bool :=
  let word := Text.lowerAscii text
  if word ∈ trueWords then .ok true
  else if word ∈ falseWords then .ok false
  else .error .unreadableBool

def boolOfInt (n : Int) : Except Cause Bool :=
  if n = 0 then .ok false else if n = 1 then .ok true else .error .unreadableBool

def isLong (n : Int) : Bool := -(2 ^ 63 : Int) ≤ n && n < (2 ^ 63 : Int)

def checkBool (value : Value) : Except Cause Bool :=
  match value with
  | .bool b => .ok b
  | .int n => if isLong n then boolOfInt n else .error .notBool
  | .float x =>
    match checkWhole x with
    | .ok n => boolOfInt n
    | .error _ => .error .notBool
  | value =>
    match value.asText? .unreadableBool with
    | some text => text.bind readBool
    | none => .error .notBool

def checkOneOf {α : Type} (choices : List (Text × α)) (value : Value) : Except Cause α :=
  match value with
  | .text text => (choices.lookup text).elim (.error (.notOneOf (choices.map Prod.fst))) .ok
  | _ => .error (.notOneOf (choices.map Prod.fst))

end SessionReplay
