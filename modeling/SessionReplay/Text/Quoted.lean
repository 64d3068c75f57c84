import SessionReplay.Text.Basic

/-!
# Quoted literals

A text as a string literal in double quotes. Quote, backslash, control characters and the two
separators U+2028 and U+2029, which end a source line, are escaped; every other character stands
for itself. `readLiteral?` scans a literal from its opening quote to the first unescaped one.
-/

namespace SessionReplay.Text

def escape (c : Char) : Text :=
  if c = '"' then "\\\""
  else if c = '\\' then "\\\\"
  else if c = '\n' then "\\n"
  else if c = '\r' then "\\r"
  else if c = '\t' then "\\t"
  else if c = '\x08' then "\\b"
  else if c = '\x0c' then "\\f"
  else if c.toNat < 0x20 ∨ c = '\u2028' ∨ c = '\u2029' then "\\u" ++ hex 4 c.toNat
  else [c]

def quoted (text : Text) : Text := '"' :: text.flatMap escape ++ ['"']

def hexDigit? (c : Char) : Option Nat :=
  if c.isDigit then some (c.toNat - '0'.toNat)
  else if 'a' ≤ c ∧ c ≤ 'f' then some (c.toNat - 'a'.toNat + 10)
  else if 'A' ≤ c ∧ c ≤ 'F' then some (c.toNat - 'A'.toNat + 10)
  else none

def hexValue? (digits : Text) : Option Nat :=
  digits.foldlM (fun n c => (hexDigit? c).map (16 * n + ·)) 0

def escapedChar? : Char → Option Char
  | '"' => some '"'
  | '\\' => some '\\'
  | 'b' => some '\x08'
  | 'f' => some '\x0c'
  | 'n' => some '\n'
  | 'r' => some '\r'
  | 't' => some '\t'
  | _ => none

/-- Reads the inside of a literal and its closing quote: the text it stands for and what follows. -/
def readInside? : Text → Option (Text × Text)
  | '"' :: rest => some ([], rest)
  | '\\' :: 'u' :: a :: b :: c :: d :: rest => do
    let code ← hexValue? [a, b, c, d]
    let (text, rest) ← readInside? rest
    some (Char.ofNat code :: text, rest)
  | '\\' :: c :: rest => do
    let char ← escapedChar? c
    let (text, rest) ← readInside? rest
    some (char :: text, rest)
  | c :: rest =>
    if c = '\\' then none
    else (readInside? rest).map fun (text, rest) => (c :: text, rest)
  | [] => none

def readLiteral? : Text → Option (Text × Text)
  | '"' :: rest => readInside? rest
  | _ => none

end SessionReplay.Text
