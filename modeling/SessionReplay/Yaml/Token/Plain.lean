import SessionReplay.Yaml.Token.Basic

/-!
# Plain scalars

Texts without quotes. They end where a sign of the structure begins, and may go on over lines that
are indented.
-/

namespace SessionReplay.Yaml

def isFlowSign (c : Char) : Bool := c == ',' || c == '[' || c == ']' || c == '{' || c == '}'

/-- The part of a plain scalar up to the next blank or the sign that ends it. A colon belongs to it
unless a word ends there; so does a question mark, but not within brackets in version 1.1. -/
def plainRun (inFlow old : Bool) : Text → Text
  | [] => []
  | ':' :: rest => if endsWord rest.head? then [] else ':' :: plainRun inFlow old rest
  | c :: rest =>
    if endsWord (some c) || (inFlow && (isFlowSign c || (c == '?' && old))) then []
    else c :: plainRun inFlow old rest

def startsPlain (inFlow : Bool) (version : Version) (cursor : Cursor) : Bool :=
  match cursor.peek with
  | none => false
  | some c =>
    let wordFollows := !endsWord (cursor.peekAt 1)
    if "-?:,[]\x7b\x7d#&*!|>'\"%@\x60".toList.contains c || isSpaceOrTab c || isBreak c then
      (wordFollows && (c == '-' || (!inFlow && (c == '?' || c == ':')))) ||
        (!version.isOld && inFlow && c == ':' && !(cursor.peekAt 1).any isSpaceOrTab)
    else true

/-- The breaks before the next line of a plain scalar. There are none if a document marker comes
first. -/
def plainBreaks (fuel : Nat) (cursor : Cursor) : Option Text × Cursor :=
  match fuel with
  | 0 => (none, cursor)
  | fuel + 1 =>
    if cursor.atDocumentMarker then (none, cursor)
    else
      let after := cursor.skipWhile isSpace
      if after.atBreak then
        let (first, after) := after.takeBreak
        let (more, after) := plainBreaks fuel after
        (more.map (first ++ ·), after)
      else (some [], after)

structure PlainGap where
  /-- What it stands for; nothing, if the scalar does not go on. -/
  text : Option Text
  /-- Whether a line has ended. -/
  newLine : Bool
  after : Cursor

/-- The blanks and breaks after a part of a plain scalar. Tabs are not among them. -/
def plainGap (cursor : Cursor) : PlainGap :=
  let (blanks, after) := cursor.span isSpace
  if after.atBreak then
    let (first, after) := after.takeBreak
    let (more, after) := plainBreaks (after.rest.length + 1) after
    let text := more.map fun more =>
      (if first ≠ ['\n'] then first else if more.isEmpty then [' '] else []) ++ more
    ⟨text, true, after⟩
  else ⟨if blanks.isEmpty then none else some blanks, false, after⟩

structure PlainText where
  text : Text
  /-- Whether a simple key may begin behind it: its last gap has a line end. -/
  newLine : Bool
  after : Cursor

def plainFrom (inFlow old : Bool) (indent : Int) (fuel : Nat) (before : Text) (newLine : Bool)
    (cursor : Cursor) : PlainText :=
  match fuel with
  | 0 => ⟨[], newLine, cursor⟩
  | fuel + 1 =>
    let run := plainRun inFlow old cursor.rest
    if cursor.peek = some '#' ∨ run.isEmpty then ⟨[], newLine, cursor⟩
    else
      let gap := plainGap (cursor.skip run.length)
      match gap.text with
      | none => ⟨before ++ run, gap.newLine, gap.after⟩
      | some text =>
        if gap.after.peek = some '#' ∨ (!inFlow ∧ gap.after.column < indent) then
          ⟨before ++ run, gap.newLine, gap.after⟩
        else
          let more := plainFrom inFlow old indent fuel text gap.newLine gap.after
          { more with text := before ++ run ++ more.text }

/-- A plain scalar; its further lines have to be indented beyond `indent`. -/
def takePlain (inFlow : Bool) (version : Version) (indent : Int) (cursor : Cursor) : PlainText :=
  plainFrom inFlow version.isOld (indent + 1) (cursor.rest.length + 1) [] false cursor

end SessionReplay.Yaml
