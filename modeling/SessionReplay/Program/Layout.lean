import SessionReplay.Text.Blank

/-!
# Layout

Lines are gathered without indentation; how deep a line stands is told by the brackets at its ends
when the gathered lines are rendered. Comments and empty lines do not change the depth, and a
header such as `if (…)` without a brace moves only the next line.
-/

namespace SessionReplay.Program

/-- Trimmed lines, waiting to be rendered. -/
abbrev Lines := List Text

namespace Lines

def ofText (text : Text) : Lines := (Text.lines (Text.trim text)).map Text.trim

def add (buffer : Lines) (text : Text) : Lines := buffer ++ ofText text

def prepend (buffer : Lines) (text : Text) : Lines := ofText text ++ buffer

def newLine (buffer : Lines) : Lines := buffer ++ [[]]

end Lines

/-- One step of depth, in spaces. -/
def indentWidth : Nat := 4

def isComment (line : Text) : Bool := "//".toList.isPrefixOf line

/-- A line before which the depth goes down: one that begins with a closing bracket, and one that
closes more braces than it opens and a call with them. -/
def closesBlock (line : Text) : Bool :=
  line.head? == some '}' || line.head? == some ']' || line == ");".toList ||
    (Text.contains "\x7d);" line && line.count '{' < line.count '}')

/-- A line after which the depth goes up: it ends with an opening bracket. -/
def opensBlock (line : Text) : Bool :=
  match line.getLast? with
  | some c => c == '{' || c == '[' || c == '('
  | none => false

/-- A line after which the depth goes down: it ends two calls. -/
def endsCalls (line : Text) : Bool := "));".toList.isSuffixOf line

/-- A condition in round brackets, blanks before it, and nothing else. -/
def isCondition (text : Text) : Bool :=
  match text.dropWhile Text.isBlank with
  | '(' :: rest => rest.getLast? == some ')'
  | _ => false

/-- The header of a control statement whose body stands on the next line without a brace. -/
def isBareHeader (line : Text) : Bool :=
  (["for".toList, "while".toList, "if".toList].filterMap (Text.dropFront? · line)).any isCondition

/-- What the lines so far tell about the next one. -/
structure Depth where
  depth : Nat := 0
  /-- The last line that is not empty. -/
  previous : Text := []

namespace Depth

def ofLine (before : Depth) (line : Text) : Nat :=
  if !isComment line && closesBlock line then before.depth - 1 else before.depth

def spaces (before : Depth) (line : Text) : Nat :=
  indentWidth * before.ofLine line + (if isBareHeader before.previous then indentWidth else 0)

def after (before : Depth) (line : Text) : Depth where
  depth :=
    let depth := before.ofLine line
    if isComment line then depth
    else
      let opened := if opensBlock line then depth + 1 else depth
      if endsCalls line then opened - 1 else opened
  previous := line

end Depth

namespace Lines

/-- The lines with their indentation, `offset` spaces before each that is not empty. -/
def renderFrom (offset : Nat) (before : Depth) : Lines → List Text
  | [] => []
  | line :: rest =>
    if line = [] then [] :: renderFrom offset before rest
    else
      (List.replicate (offset + before.spaces line) ' ' ++ line) ::
        renderFrom offset (before.after line) rest

def render (offset : Nat) (buffer : Lines) : Text := Text.unlines (renderFrom offset {} buffer)

end Lines
end SessionReplay.Program
