import SessionReplay.File.Recording
import SessionReplay.Yaml.Document

/-!
# The text of a file

A file is read and decoded piece by piece, and what is read is looked through for characters that
YAML does not allow. So a fault deep in a file is met only when the text before it has been used up,
and its place is told from the beginning of its piece. Every kind of line end becomes a line feed.
-/

namespace SessionReplay

/-- Text, perhaps cut off by a fault. -/
structure SourceText where
  text : Text
  cutOff : Option Yaml.Fault

namespace SourceText

/-- The number of bytes that are decoded at a time. -/
def pieceBytes : Nat := 8192

/-- The number of characters that are read at a time; the first two times come together. -/
def pieceChars : Nat := 4096

def isAllowed (c : Char) : Bool :=
  let n := c.toNat
  n == 0x09 || n == 0x0A || n == 0x0D || (0x20 ≤ n && n ≤ 0x7E) || n == 0x85 ||
    (0xA0 ≤ n && n ≤ 0xD7FF) || (0xE000 ≤ n && n ≤ 0xFFFD) || 0x10000 ≤ n

def normalLines : Text → Text
  | '\r' :: '\n' :: rest => '\n' :: normalLines rest
  | '\r' :: rest => '\n' :: normalLines rest
  | c :: rest => c :: normalLines rest
  | [] => []

/-- The number of characters that have been read before a fault that `good` characters precede. -/
def readBefore (good : Nat) : Nat :=
  if good < 2 * pieceChars then 0 else good / pieceChars * pieceChars

/-- The piece in which a fault is met: the place where the piece begins, and the number of bytes of
a character that has begun before. At the end of the file only such bytes are left. -/
def pieceOf (bytes : List UInt8) (fault : Text.Utf8Fault) : Nat × Nat :=
  match fault.problem with
  | .unexpectedEnd => (bytes.length, fault.length)
  | problem =>
    let met := if problem = .invalidStart then fault.position else fault.position + fault.length
    let start := met / pieceBytes * pieceBytes
    match (Text.decodeFrom 0 none (bytes.take start)).2 with
    | some begun => (start, start - begun.position)
    | none => (start, 0)

def ofBytes (bytes : List UInt8) : SourceText :=
  let (chars, fault) := Text.decodeFrom 0 none bytes
  let text := normalLines chars
  let (decoded, decodeFault) : Nat × Option Yaml.Fault :=
    match fault with
    | none => (text.length, none)
    | some fault =>
      let (start, begun) := pieceOf bytes fault
      let good := normalLines (Text.decodeFrom 0 none (bytes.take start)).1
      (readBefore good.length,
        some (.unreadable { fault with position := fault.position - (start - begun) }))
  let allowed := (text.takeWhile isAllowed).length
  if allowed < text.length ∧ readBefore allowed < decoded then
    ⟨text.take (readBefore allowed), some .syntaxNowhere⟩
  else ⟨text.take decoded, decodeFault⟩

end SourceText

inductive YamlBreakdown where
  | noText (fault : Text.Utf8Fault)
  | data (fault : Yaml.DataFault)
deriving DecidableEq

def YamlBreakdown.message : YamlBreakdown → Text
  | .noText fault => fault.message
  | .data fault => fault.message

def ReadFault.ofYaml : Yaml.Fault → ReadFault YamlBreakdown
  | .syntaxAt mark => .syntaxAt mark
  | .syntaxNowhere => .syntaxNowhere
  | .unreadable fault => .other (.noText fault)
  | .data fault => .other (.data fault)

/-- The reader of YAML. -/
def DataReader.yaml : DataReader YamlBreakdown where
  read bytes :=
    let source := SourceText.ofBytes bytes
    (Yaml.read source.text source.cutOff).mapError .ofYaml
  tell := YamlBreakdown.message

end SessionReplay
