import SessionReplay.Text.Quoted
import SessionReplay.Yaml.Token.Basic

/-!
# Quoted scalars

Texts in single or double quotes. Within them a line break is a space and further breaks are kept;
in double quotes, a backslash begins an escape.
-/

namespace SessionReplay.Yaml

def escapes : List (Char × Char) :=
  [('0', '\x00'), ('a', '\x07'), ('b', '\x08'), ('t', '\t'), ('\t', '\t'), ('n', '\n'),
    ('v', '\x0b'), ('f', '\x0c'), ('r', '\r'), ('e', '\x1b'), (' ', ' '), ('"', '"'), ('/', '/'),
    ('\\', '\\'), ('N', '\x85'), ('_', '\u00a0'), ('L', '\u2028'), ('P', '\u2029')]

def escapeLength? : Char → Option Nat
  | 'x' => some 2
  | 'u' => some 4
  | 'U' => some 8
  | _ => none

/-- Whether a code point is the first or the second half of a pair. -/
def isHighHalf (code : Nat) : Bool := 0xD800 ≤ code && code < 0xDC00

def isLowHalf (code : Nat) : Bool := 0xDC00 ≤ code && code < 0xE000

def takeHex (digits : Nat) (cursor : Cursor) : Except Fault (Nat × Cursor) :=
  let run := cursor.rest.take digits
  if run.length = digits then
    match Text.hexValue? run with
    | some code => .ok (code, cursor.skip digits)
    | none => cursor.refuse
  else cursor.refuse

def lowHalf? (cursor : Cursor) : Option (Nat × Cursor) :=
  match cursor.rest with
  | '\\' :: 'u' :: _ =>
    match takeHex 4 (cursor.skip 2) with
    | .ok (code, after) => if isLowHalf code then some (code, after) else none
    | .error _ => none
  | _ => none

/-- The character of a code point; the two halves of a pair make one character. -/
def codeChar (code : Nat) (cursor : Cursor) : Except Fault (Text × Cursor) :=
  if 0x80000000 ≤ code then .error (.data .codeOverflow)
  else if 0x110000 ≤ code then .error (.data .noCharacter)
  else
    match if isHighHalf code then lowHalf? cursor else none with
    | some (low, after) =>
      .ok ([Char.ofNat (0x10000 + (code - 0xD800) * 0x400 + (low - 0xDC00))], after)
    | none =>
      if isHighHalf code || isLowHalf code then .error (.data (.loneHalf code))
      else .ok ([Char.ofNat code], cursor)

/-- The line breaks before the next text, within quotes. A document may not end there. -/
def quotedBreaks (fuel : Nat) (cursor : Cursor) : Except Fault (Text × Cursor) :=
  match fuel with
  | 0 => .ok ([], cursor)
  | fuel + 1 =>
    if cursor.atDocumentMarker then cursor.refuse
    else
      let after := cursor.skipWhile isSpaceOrTab
      if after.atBreak then do
        let (first, after) := after.takeBreak
        let (more, after) ← quotedBreaks fuel after
        .ok (first ++ more, after)
      else .ok ([], after)

/-- What blanks between two pieces of a line stand for, and line breaks among them. -/
def quotedBlanks (cursor : Cursor) : Except Fault (Text × Cursor) :=
  let (blanks, after) := cursor.span isSpaceOrTab
  if after.peek.isNone then after.refuse
  else if after.atBreak then do
    let (first, after) := after.takeBreak
    let (more, after) ← quotedBreaks (after.rest.length + 1) after
    let folded : Text := if first ≠ ['\n'] then first else if more.isEmpty then [' '] else []
    .ok (folded ++ more, after)
  else .ok (blanks, after)

def takeEscape (cursor : Cursor) : Except Fault (Text × Cursor) :=
  match cursor.peek with
  | none => cursor.refuse
  | some c =>
    match escapes.lookup c, escapeLength? c with
    | some char, _ => .ok ([char], cursor.next)
    | none, some digits => do
      let (code, after) ← takeHex digits cursor.next
      codeChar code after
    | none, none =>
      if isBreak c then
        let after := cursor.takeBreak.2
        quotedBreaks (after.rest.length + 1) after
      else cursor.refuse

def quotedFrom (double : Bool) (fuel : Nat) (cursor : Cursor) : Except Fault (Text × Cursor) :=
  match fuel with
  | 0 => cursor.refuse
  | fuel + 1 =>
    let goOn (piece : Text) (after : Cursor) : Except Fault (Text × Cursor) := do
      let (rest, after) ← quotedFrom double fuel after
      .ok (piece ++ rest, after)
    match cursor.peek with
    | none => cursor.refuse
    | some '"' => if double then .ok ([], cursor.next) else goOn ['"'] cursor.next
    | some '\'' =>
      if double then goOn ['\''] cursor.next
      else if cursor.peekAt 1 = some '\'' then goOn ['\''] (cursor.skip 2)
      else .ok ([], cursor.next)
    | some '\\' =>
      if double then do
        let (piece, after) ← takeEscape cursor.next
        goOn piece after
      else goOn ['\\'] cursor.next
    | some c =>
      if isSpaceOrTab c || isBreak c then do
        let (piece, after) ← quotedBlanks cursor
        goOn piece after
      else goOn [c] cursor.next

def takeQuoted (cursor : Cursor) : Except Fault (Text × Cursor) :=
  quotedFrom (cursor.peek = some '"') (cursor.rest.length + 1) cursor.next

end SessionReplay.Yaml
