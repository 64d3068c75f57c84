import SessionReplay.Yaml.Number
import SessionReplay.Yaml.Time

/-!
# Tags

What a node is said to be. A plain scalar without a tag is what it looks like: a number, a truth
value, a time, nothing, or else text. Version 1.1 knows more spellings than version 1.2.
-/

namespace SessionReplay.Yaml

inductive Tag where
  | null
  | bool
  | integer
  | float
  | bytes
  | time
  | text
  | sequence
  | mapping
  | set
  | orderedMapping
  | pairs
  /-- The key of mappings that are taken in. -/
  | merge
  /-- The key of the value that stands for a mapping as a whole. -/
  | standIn
  | unknown
deriving DecidableEq, Repr

def knownTags : Text := "tag:yaml.org,2002:"

namespace Tag

def names : List (String × Tag) :=
  [("null", .null), ("bool", .bool), ("int", .integer), ("float", .float), ("binary", .bytes),
    ("timestamp", .time), ("str", .text), ("seq", .sequence), ("map", .mapping), ("set", .set),
    ("omap", .orderedMapping), ("pairs", .pairs), ("merge", .merge), ("value", .standIn)]

def ofText (written : Text) : Tag :=
  match Text.dropFront? knownTags written with
  | some name => ((names.find? fun entry => entry.1.toList = name).map Prod.snd).getD .unknown
  | none => .unknown

end Tag

/-! ### What a plain scalar looks like -/

def dropFinalBreak (text : Text) : Text :=
  if text.getLast? = some '\n' then text.dropLast else text

def isDigitOrUnderscore (c : Char) : Bool := c.isDigit || c == '_'

def isRun (p : Char → Bool) (text : Text) : Bool := !text.isEmpty && text.all p

def isRunBehind (front : String) (p : Char → Bool) (text : Text) : Bool :=
  (Text.dropFront? front.toList text).any (isRun p)

/-- One digit, or two that are below sixty. -/
def isSixtieth : Text → Bool
  | [a] => a.isDigit
  | [a, b] => '0' ≤ a && a ≤ '5' && b.isDigit
  | _ => false

/-- A digit from `least` on, and more digits. -/
def isDigitsFrom (least : Char) : Text → Bool
  | c :: rest => least ≤ c && c ≤ '9' && rest.all isDigitOrUnderscore
  | [] => false

def isSexagesimal (least : Char) (text : Text) : Bool :=
  match text.splitOn ':' with
  | whole :: part :: parts => isDigitsFrom least whole && (part :: parts).all isSixtieth
  | _ => false

/-- The letter `e` and digits behind it, with a sign or, where it may be missing, without. -/
def isExponent (signed : Bool) : Text → Bool
  | c :: rest =>
    (c == 'e' || c == 'E') &&
      (isRun Char.isDigit (Text.takeSign rest).2) &&
      (!signed || !(rest.head?.any Char.isDigit))
  | [] => false

def startsNumber (text : Text) : Bool :=
  text.head?.any fun c => c == '-' || c == '+' || c.isDigit

def looksInteger (version : Version) (text : Text) : Bool :=
  let digits := (Text.takeSign text).2
  let octal (c : Char) : Bool := ('0' ≤ c && c ≤ '7') || c == '_'
  let binary (c : Char) : Bool := c == '0' || c == '1' || c == '_'
  let hexadecimal (c : Char) : Bool := (Text.hexDigit? c).isSome || c == '_'
  startsNumber text &&
    (isRunBehind "0b" binary digits || isRunBehind "0x" hexadecimal digits ||
      if version.isOld then
        isRun octal digits || isDigitsFrom '1' digits || isSexagesimal '1' digits
      else isRunBehind "0o" octal digits || isRun isDigitOrUnderscore digits)

/-- Digits with a point behind them or an exponent or both. -/
def isPointNumber (text : Text) : Bool :=
  let rest := text.dropWhile isDigitOrUnderscore
  text.head?.any Char.isDigit &&
    match rest with
    | '.' :: fraction =>
      let rest := fraction.dropWhile isDigitOrUnderscore
      rest.isEmpty || isExponent false rest
    | _ => isExponent false rest

/-- A point with digits behind it. The exponent has a sign. -/
def isPointFraction : Text → Bool
  | '.' :: fraction =>
    let rest := fraction.dropWhile isDigitOrUnderscore
    fraction.head?.any isDigitOrUnderscore && (rest.isEmpty || isExponent true rest)
  | _ => false

/-- Digits of base sixty with a point behind them. -/
def isSexagesimalFloat (text : Text) : Bool :=
  let whole := text.takeWhile (· != '.')
  match text.dropWhile (· != '.') with
  | _ :: fraction => isSexagesimal '0' whole && fraction.all isDigitOrUnderscore
  | [] => false

def looksFloat (version : Version) (text : Text) : Bool :=
  let digits := (Text.takeSign text).2
  isPointNumber digits || [".inf", ".Inf", ".INF"].any (·.toList = digits) ||
    [".nan", ".NaN", ".NAN"].any (·.toList = text) ||
    if version.isOld then isPointFraction text || isSexagesimalFloat digits
    else isPointFraction digits

def looksBool (version : Version) (text : Text) : Bool :=
  let always := ["true", "True", "TRUE", "false", "False", "FALSE"]
  let once := ["y", "Y", "yes", "Yes", "YES", "n", "N", "no", "No", "NO", "on", "On", "ON", "off",
    "Off", "OFF"]
  (if version.isOld then always ++ once else always).any (·.toList = text)

/-- Whether a text looks like a time. A day alone has two digits each for month and day. -/
def looksTime (text : Text) : Bool :=
  (WrittenTime.ofText? text).any fun written => written.clock.isSome || written.padded

/-- The tag of a plain scalar without one. -/
def Tag.ofPlain (version : Version) (text : Text) : Except DataFault Tag :=
  if !(version.isOld || version = .standard) then
    .error (.unknownVersion version.major version.minor)
  else
    let line := dropFinalBreak text
    if text.isEmpty || ["~", "null", "Null", "NULL"].any (·.toList = line) then .ok .null
    else if looksBool version line then .ok .bool
    else if looksFloat version line then .ok .float
    else if looksInteger version line then .ok .integer
    else if looksTime line then .ok .time
    else if line = "<<" then .ok .merge
    else if line = "=" then .ok .standIn
    else if ["!", "&", "*"].any (·.toList = line) then .ok .unknown
    else .ok .text

end SessionReplay.Yaml
