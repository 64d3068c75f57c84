import SessionReplay.Text.Quoted
import SessionReplay.Text.Utf8
import SessionReplay.Yaml.Token.Basic

/-!
# Anchors, tags and directives

The properties of nodes and the lines that stand before a document.
-/

namespace SessionReplay.Yaml

/-! ### Anchors and references -/

/-- A character of an anchor's name: anything visible that is no sign of brackets. -/
def isAnchorChar (c : Char) : Bool :=
  let n := c.toNat
  !(c == ',' || c == '[' || c == ']' || c == '{' || c == '}') &&
    ((0x21 ≤ n && n ≤ 0x7E) || (0xA0 ≤ n && n ≤ 0xD7FF) ||
      (0xE000 ≤ n && n ≤ 0xFFFD && c != '\ufeff') || 0x10000 ≤ n)

def endsAnchor : Option Char → Bool
  | none => true
  | some c => isSpaceOrTab c || isBreak c || "?:,[]\x7b\x7d%@\x60".toList.contains c

def takeAnchorName (cursor : Cursor) : Except Fault (Text × Cursor) :=
  let (name, after) := cursor.next.span isAnchorChar
  if name.isEmpty || !endsAnchor after.peek then after.refuse else .ok (name, after)

/-! ### Tags -/

def isHandleChar (c : Char) : Bool := c.isAlphanum || c == '-' || c == '_'

/-- A character of the rest of a tag, besides escapes. Version 1.1 has no number sign there. -/
def isTagChar (version : Version) (c : Char) : Bool :=
  c.isAlphanum || "-;/?:@&=+$,_.!~*'()[]".toList.contains c || (version.isNewer && c == '#')

def takeEscapedByte (cursor : Cursor) : Except Fault (UInt8 × Cursor) :=
  let after := cursor.next
  match after.rest with
  | a :: b :: _ =>
    match Text.hexValue? [a, b] with
    | some byte => .ok (byte.toUInt8, after.skip 2)
    | none => after.refuse
  | _ => after.refuse

def takeEscapedBytes (fuel : Nat) (cursor : Cursor) : Except Fault (List UInt8 × Cursor) :=
  match fuel with
  | 0 => .ok ([], cursor)
  | fuel + 1 =>
    if cursor.peek = some '%' then do
      let (byte, after) ← takeEscapedByte cursor
      let (more, after) ← takeEscapedBytes fuel after
      .ok (byte :: more, after)
    else .ok ([], cursor)

def tagRest (version : Version) (fuel : Nat) (cursor : Cursor) : Except Fault (Text × Cursor) :=
  match fuel with
  | 0 => .ok ([], cursor)
  | fuel + 1 =>
    let (run, after) := cursor.span (isTagChar version)
    if after.peek = some '%' then do
      let (bytes, next) ← takeEscapedBytes (after.rest.length + 1) after
      match Text.ofUtf8 bytes with
      | .error _ => after.refuse
      | .ok chars =>
        let (more, next) ← tagRest version fuel next
        .ok (run ++ chars ++ more, next)
    else .ok (run, after)

def takeTagRest (version : Version) (cursor : Cursor) : Except Fault (Text × Cursor) := do
  let (text, after) ← tagRest version (cursor.rest.length + 1) cursor
  if after.mark.index = cursor.mark.index then after.refuse else .ok (text, after)

/-- A handle: an exclamation mark, or a name between two. -/
def takeHandle (cursor : Cursor) : Except Fault (Text × Cursor) :=
  if cursor.peek ≠ some '!' then cursor.refuse
  else if cursor.peekAt 1 = some ' ' then .ok (['!'], cursor.next)
  else
    let (name, after) := cursor.next.span isHandleChar
    if after.peek = some '!' then .ok ('!' :: name ++ ['!'], after.next) else after.refuse

/-- Whether another exclamation mark stands in the word that begins here. -/
def hasHandleEnd : Text → Bool
  | [] => false
  | c :: rest => if c == '!' then true else if endsProperty (some c) then false else hasHandleEnd rest

/-- A tag; the cursor is at its exclamation mark. A tag in angle brackets has no handle, and neither
has an exclamation mark alone. -/
def takeTag (version : Version) (cursor : Cursor) : Except Fault (TokenKind × Cursor) := do
  let (short, cursor) : Text × Cursor :=
    if cursor.peekAt 1 = some '!' then ("!!".toList, cursor.next) else (['!'], cursor)
  let (kind, after) : TokenKind × Cursor ←
    if cursor.peekAt 1 = some '<' then do
      let (suffix, after) ← takeTagRest version (cursor.skip 2)
      if after.peek = some '>' then .ok (.tag none suffix, after.next) else after.refuse
    else if endsWord (cursor.peekAt 1) then .ok (.tag none short, cursor.next)
    else if hasHandleEnd cursor.next.rest then do
      let (handle, after) ← takeHandle cursor
      let (suffix, after) ← takeTagRest version after
      .ok (.tag (some handle) suffix, after)
    else do
      let (suffix, after) ← takeTagRest version cursor.next
      .ok (.tag (some short) suffix, after)
  if endsProperty after.peek then .ok (kind, after) else after.refuse

/-! ### Directives -/

def isDirectiveChar (c : Char) : Bool := isHandleChar c || c == ':' || c == '.'

def takeVersionNumber (cursor : Cursor) : Except Fault (Nat × Cursor) :=
  let (digits, after) := cursor.span Char.isDigit
  if digits.isEmpty then cursor.refuse else .ok (Text.digitsValue digits, after)

def takeVersion (cursor : Cursor) : Except Fault (TokenKind × Cursor) := do
  let (major, after) ← takeVersionNumber (cursor.skipWhile isSpace)
  if after.peek ≠ some '.' then after.refuse
  else
    let (minor, after) ← takeVersionNumber after.next
    if endsProperty after.peek then .ok (.yamlDirective ⟨major, minor⟩, after) else after.refuse

/-- The handle that a directive introduces, and what it stands for; escapes stay as they are written
there. -/
def takeTagDirective (version : Version) (cursor : Cursor) : Except Fault (TokenKind × Cursor) := do
  let (handle, after) ← takeHandle (cursor.skipWhile isSpace)
  if after.peek ≠ some ' ' then after.refuse
  else
    let start := after.skipWhile isSpace
    let (_, after) ← takeTagRest version start
    let replacement := start.rest.take (after.mark.index - start.mark.index)
    if endsProperty after.peek then .ok (.tagDirective handle replacement, after) else after.refuse

/-- A directive; the cursor is at its percent sign. -/
def takeDirective (version : Version) (cursor : Cursor) : Except Fault (TokenKind × Cursor) := do
  let (name, after) := cursor.next.span isDirectiveChar
  if name.isEmpty || !endsProperty after.peek then after.refuse
  else
    let (kind, after) ←
      if name = "YAML" then takeVersion after
      else if name = "TAG" then takeTagDirective version after
      else .ok (.otherDirective, after.toLineEnd)
    let after := after.skipWhile isSpace
    let after := if after.peek = some '#' then after.toLineEnd else after
    if endsLine after.peek then .ok (kind, after.takeBreak.2) else after.refuse

end SessionReplay.Yaml
