import SessionReplay.Text.Basic

/-!
# Positions in YAML text

A cursor is what is left of a text and the place where it begins. Lines are counted by line feeds.
The other line separators of Unicode break a line as well, but what follows them is still counted as
part of the same line.
-/

namespace SessionReplay.Yaml

/-- A place in a text: line and column, and the number of characters before it. -/
structure Mark where
  line : Nat
  column : Nat
  index : Nat
deriving DecidableEq, Repr

/-- The place after a character. A byte order mark takes no column. -/
def Mark.after (mark : Mark) (c : Char) : Mark :=
  if c = '\n' then ⟨mark.line + 1, 0, mark.index + 1⟩
  else if c = '\ufeff' then ⟨mark.line, mark.column, mark.index + 1⟩
  else ⟨mark.line, mark.column + 1, mark.index + 1⟩

/-- The rest of a text, and the place where it begins. -/
structure Cursor where
  rest : Text
  mark : Mark
deriving DecidableEq

namespace Cursor

def ofText (text : Text) : Cursor := ⟨text, ⟨0, 0, 0⟩⟩

def column (cursor : Cursor) : Nat := cursor.mark.column

def peek (cursor : Cursor) : Option Char := cursor.rest.head?

def peekAt (cursor : Cursor) (n : Nat) : Option Char := cursor.rest[n]?

def next (cursor : Cursor) : Cursor :=
  match cursor.rest with
  | [] => cursor
  | c :: rest => ⟨rest, cursor.mark.after c⟩

def skip : Nat → Cursor → Cursor
  | 0, cursor => cursor
  | n + 1, cursor => skip n cursor.next

def span (cursor : Cursor) (p : Char → Bool) : Text × Cursor :=
  let run := cursor.rest.takeWhile p
  (run, cursor.skip run.length)

def skipWhile (cursor : Cursor) (p : Char → Bool) : Cursor := (cursor.span p).2

end Cursor

/-! ### Classes of characters; `none` stands for the end of the text -/

def isBreak (c : Char) : Bool :=
  c == '\n' || c == '\r' || c == '\x85' || c == '\u2028' || c == '\u2029'

def endsLine : Option Char → Bool
  | none => true
  | some c => isBreak c

def endsWord : Option Char → Bool
  | some ' ' | some '\t' => true
  | c => endsLine c

def endsProperty : Option Char → Bool
  | none => true
  | some c => c == ' ' || isBreak c

def isSpace (c : Char) : Bool := c == ' '

def isSpaceOrTab (c : Char) : Bool := c == ' ' || c == '\t'

namespace Cursor

def atBreak (cursor : Cursor) : Bool := cursor.peek.any isBreak

def toLineEnd (cursor : Cursor) : Cursor := cursor.skipWhile fun c => !isBreak c

/-- Takes a break: the two separators of Unicode stay themselves, all others are line feeds. -/
def takeBreak (cursor : Cursor) : Text × Cursor :=
  match cursor.rest with
  | '\r' :: '\n' :: _ => (['\n'], cursor.skip 2)
  | c :: _ =>
    if c == '\u2028' || c == '\u2029' then ([c], cursor.next)
    else if isBreak c then (['\n'], cursor.next)
    else ([], cursor)
  | [] => ([], cursor)

def atMarker (cursor : Cursor) (c : Char) : Bool :=
  [c, c, c].isPrefixOf cursor.rest && endsWord (cursor.peekAt 3)

/-- Whether the line begins with the end of a document or the start of another. -/
def atDocumentMarker (cursor : Cursor) : Bool := cursor.atMarker '-' || cursor.atMarker '.'

end Cursor
end SessionReplay.Yaml
