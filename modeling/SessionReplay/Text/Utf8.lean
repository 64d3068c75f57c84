import SessionReplay.Text.Basic

/-!
# UTF-8

Bytes as text. Decoding goes on to the first place where the bytes are no UTF-8 and tells what is
wrong there: shortest forms only, no surrogates, nothing beyond U+10FFFF.
-/

namespace SessionReplay.Text

inductive Utf8Problem where
  /-- No character begins with the byte. -/
  | invalidStart
  /-- The character does not go on with the next byte. -/
  | invalidContinuation
  /-- The bytes end within a character. -/
  | unexpectedEnd
deriving DecidableEq, Repr

structure Utf8Fault where
  /-- The place of the first byte at fault. -/
  position : Nat
  /-- The number of bytes at fault. -/
  length : Nat
  /-- The first byte at fault. -/
  byte : UInt8
  problem : Utf8Problem
deriving DecidableEq, Repr

def Utf8Problem.message : Utf8Problem → Text
  | .invalidStart => "invalid start byte"
  | .invalidContinuation => "invalid continuation byte"
  | .unexpectedEnd => "unexpected end of data"

def Utf8Fault.message (fault : Utf8Fault) : Text :=
  let place : Text :=
    if fault.length = 1 then
      "byte 0x" ++ hex 2 fault.byte.toNat ++ " in position " ++ ofNat fault.position
    else
      "bytes in position " ++ ofNat fault.position ++ "-" ++
        ofNat (fault.position + fault.length - 1)
  "'utf-8' codec can't decode " ++ place ++ ": " ++ fault.problem.message

structure Utf8Partial where
  start : Nat
  first : UInt8
  /-- The number of bytes so far. -/
  read : Nat
  /-- The number of bytes still to come. -/
  left : Nat
  /-- The bounds of the next byte. -/
  low : UInt8
  high : UInt8
  /-- The bits so far. -/
  bits : Nat
deriving DecidableEq, Repr

/-- The bytes after a first byte: their number, and the bounds of the first of them. -/
def followers? (first : UInt8) : Option (Nat × UInt8 × UInt8) :=
  if 0xC2 ≤ first ∧ first ≤ 0xDF then some (1, 0x80, 0xBF)
  else if first = 0xE0 then some (2, 0xA0, 0xBF)
  else if first = 0xED then some (2, 0x80, 0x9F)
  else if 0xE1 ≤ first ∧ first ≤ 0xEF then some (2, 0x80, 0xBF)
  else if first = 0xF0 then some (3, 0x90, 0xBF)
  else if 0xF1 ≤ first ∧ first ≤ 0xF3 then some (3, 0x80, 0xBF)
  else if first = 0xF4 then some (3, 0x80, 0x8F)
  else none

def Utf8Partial.begin? (position : Nat) (first : UInt8) : Option Utf8Partial :=
  (followers? first).map fun (left, low, high) =>
    { start := position, first, read := 1, left, low, high,
      bits := first.toNat % (1 <<< (6 - left)) }

def Utf8Partial.next (char : Utf8Partial) (byte : UInt8) : Utf8Partial :=
  { char with
    read := char.read + 1
    left := char.left - 1
    low := 0x80
    high := 0xBF
    bits := 64 * char.bits + byte.toNat % 64 }

/-- The characters up to the first fault, and the fault if there is one. -/
def decodeFrom (position : Nat) (begun : Option Utf8Partial) :
    List UInt8 → Text × Option Utf8Fault
  | [] => ([], begun.map fun char => ⟨char.start, char.read, char.first, .unexpectedEnd⟩)
  | byte :: rest =>
    match begun with
    | none =>
      if byte < 0x80 then
        let (text, fault) := decodeFrom (position + 1) none rest
        (Char.ofNat byte.toNat :: text, fault)
      else
        match Utf8Partial.begin? position byte with
        | none => ([], some ⟨position, 1, byte, .invalidStart⟩)
        | some char => decodeFrom (position + 1) (some char) rest
    | some char =>
      if char.low ≤ byte ∧ byte ≤ char.high then
        let char := char.next byte
        if char.left = 0 then
          let (text, fault) := decodeFrom (position + 1) none rest
          (Char.ofNat char.bits :: text, fault)
        else decodeFrom (position + 1) (some char) rest
      else ([], some ⟨char.start, char.read, char.first, .invalidContinuation⟩)

def ofUtf8 (bytes : List UInt8) : Except Utf8Fault Text :=
  match decodeFrom 0 none bytes with
  | (text, none) => .ok text
  | (_, some fault) => .error fault

def charUtf8 (c : Char) : List UInt8 :=
  let n := c.toNat
  let tail (k : Nat) : UInt8 := (0x80 + (n >>> (6 * k)) % 64).toUInt8
  if n < 0x80 then [n.toUInt8]
  else if n < 0x800 then [(0xC0 + n / 64).toUInt8, tail 0]
  else if n < 0x10000 then [(0xE0 + n / 4096).toUInt8, tail 1, tail 0]
  else [(0xF0 + n / 262144).toUInt8, tail 2, tail 1, tail 0]

def toUtf8 (text : Text) : List UInt8 := text.flatMap charUtf8

end SessionReplay.Text
