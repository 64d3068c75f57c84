import SessionReplay.Yaml.Token.Basic

/-!
# Block scalars

Texts whose lines are marked by their indentation: literal ones keep their line breaks, folded ones
write a space for a single break between lines that begin with no blank.
-/

namespace SessionReplay.Yaml

/-- What becomes of the line breaks at the end of a block scalar. -/
inductive Chomping where
  /-- The last one stays. -/
  | clip
  /-- All of them stay. -/
  | keep
  /-- None of them stays. -/
  | strip
deriving DecidableEq, Repr

structure BlockHeader where
  chomping : Chomping
  /-- The indentation of the text beyond that of its parent, if it is given. -/
  increment : Option Nat

def chomping? : Option Char → Option Chomping
  | some '+' => some .keep
  | some '-' => some .strip
  | _ => none

/-- The increment that a digit gives; zero is none. -/
def takeIncrement (cursor : Cursor) : Except Fault (Option Nat × Cursor) :=
  match cursor.peek with
  | some c =>
    if c == '0' then cursor.refuse
    else if c.isDigit then .ok (some (c.toNat - '0'.toNat), cursor.next)
    else .ok (none, cursor)
  | none => .ok (none, cursor)

def takeIndicators (cursor : Cursor) : Except Fault (BlockHeader × Cursor) := do
  match chomping? cursor.peek with
  | some chomping =>
    let (increment, after) ← takeIncrement cursor.next
    .ok (⟨chomping, increment⟩, after)
  | none =>
    let (increment, after) ← takeIncrement cursor
    match increment, chomping? after.peek with
    | some _, some chomping => .ok (⟨chomping, increment⟩, after.next)
    | _, _ => .ok (⟨.clip, increment⟩, after)

def takeHeaderEnd (cursor : Cursor) : Except Fault Cursor :=
  let after := cursor.skipWhile isSpace
  let after := if after.peek = some '#' then after.toLineEnd else after
  if endsLine after.peek then .ok after.takeBreak.2 else after.refuse

/-- The lines of blanks before the first line of a text. -/
structure LeadingLines where
  breaks : Text
  /-- The greatest column that blanks lead to. -/
  deepest : Nat
  /-- The column at which the first line ended, if it held blanks only. -/
  first : Option Nat
  after : Cursor

/-- The lines of blanks from a cursor on. -/
def leadingLines (fuel : Nat) (first : Option Nat) (cursor : Cursor) : LeadingLines :=
  match fuel with
  | 0 => ⟨[], 0, first, cursor⟩
  | fuel + 1 =>
    let after := cursor.skipWhile isSpace
    let reached := if after.mark.index = cursor.mark.index then 0 else after.column
    if after.atBreak then
      let (br, next) := after.takeBreak
      let more := leadingLines fuel (first <|> some after.column) next
      { more with breaks := br ++ more.breaks, deepest := max reached more.deepest }
    else ⟨[], reached, first, after⟩

def skipIndent (indent : Nat) : Nat → Cursor → Cursor
  | 0, cursor => cursor
  | n + 1, cursor =>
    if cursor.column < indent ∧ cursor.peek = some ' ' then skipIndent indent n cursor.next
    else cursor

/-- The empty lines before the next line of a text that is indented to a column. -/
def emptyLines (indent fuel : Nat) (cursor : Cursor) : Text × Cursor :=
  match fuel with
  | 0 => ([], cursor)
  | fuel + 1 =>
    let after := skipIndent indent indent cursor
    if after.atBreak then
      let (br, next) := after.takeBreak
      let (more, next) := emptyLines indent fuel next
      (br ++ more, next)
    else ([], after)

structure BlockLines where
  text : Text
  /-- The break that ends the last line. -/
  lastBreak : Text
  /-- The empty lines after it. -/
  breaks : Text
  after : Cursor

def foldBreak (folded : Bool) (lineBreak breaks : Text) (first next : Option Char) : Text :=
  if folded && lineBreak == ['\n'] && !first.any isSpaceOrTab && !next.any isSpaceOrTab then
    if breaks.isEmpty then [' '] else []
  else lineBreak

/-- The lines of a text indented to a column, the empty lines `breaks` being before the first. A
text that is not indented at all ends at a document marker. -/
def blockLines (folded : Bool) (indent : Nat) (atMargin : Bool) (fuel : Nat) (breaks : Text)
    (lastBreak : Text) (cursor : Cursor) : BlockLines :=
  match fuel with
  | 0 => ⟨[], lastBreak, breaks, cursor⟩
  | fuel + 1 =>
    if cursor.column = indent ∧ cursor.peek.isSome then
      let (line, ended) := cursor.span fun c => !isBreak c
      let (lineBreak, next) := ended.takeBreak
      let (empty, next) := emptyLines indent (next.rest.length + 1) next
      if atMargin && next.column == 0 && next.atDocumentMarker then
        ⟨breaks ++ line, lineBreak, empty, next⟩
      else if next.column = indent ∧ next.peek.isSome then
        let more := blockLines folded indent atMargin fuel empty lineBreak next
        { more with
          text := breaks ++ line ++ foldBreak folded lineBreak empty cursor.peek next.peek ++
            more.text }
      else ⟨breaks ++ line, lineBreak, empty, next⟩
    else ⟨[], lastBreak, breaks, cursor⟩

def Chomping.ending (chomping : Chomping) (lines : BlockLines) : Text :=
  match chomping with
  | .clip => lines.lastBreak
  | .keep => lines.lastBreak ++ lines.breaks
  | .strip => []

/-- A block scalar; the cursor is behind its sign, and its parent is indented to `parent`. -/
def takeBlockText (folded : Bool) (parent : Int) (cursor : Cursor) :
    Except Fault (Text × Cursor) := do
  let (header, after) ← takeIndicators cursor
  if !endsProperty after.peek then after.refuse
  else
    let start ← takeHeaderEnd after
    let least := (parent + 1).toNat
    let fuel := start.rest.length + 1
    match header.increment with
    | none =>
      let leading := leadingLines fuel none start
      if leading.first.any fun first => 0 < first && first < leading.deepest then
        .error .syntaxNowhere
      else
        let lines := blockLines folded (max least leading.deepest) (least == 0) fuel leading.breaks
          [] leading.after
        .ok (lines.text ++ header.chomping.ending lines, lines.after)
    | some increment =>
      let indent := max least 1 + increment - 1
      let (breaks, after) := emptyLines indent fuel start
      let lines := blockLines folded indent false fuel breaks [] after
      .ok (lines.text ++ header.chomping.ending lines, lines.after)

end SessionReplay.Yaml
