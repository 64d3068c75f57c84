import SessionReplay.Yaml.Token.BlockText
import SessionReplay.Yaml.Token.Plain
import SessionReplay.Yaml.Token.Property
import SessionReplay.Yaml.Token.Quoted

/-!
# The tokens of a text

Tokens are taken from the text one after the other. Whether a node is the key of a mapping shows
only at the colon behind it, so a place where a key may have begun is remembered, and the token for
the key is put in there when the colon comes. Until then the tokens from that place on are not
settled: they cannot be read, and a fault that is met meanwhile comes before them.
-/

namespace SessionReplay.Yaml

/-- The brackets around a place. -/
inductive Bracket where
  | square
  | curly
deriving DecidableEq, Repr

/-- A place where the key of a mapping may have begun. -/
structure KeyPlace where
  /-- The number of brackets around it. -/
  level : Nat
  /-- The number of tokens before it. -/
  token : Nat
  /-- Whether it has to be a key, because a block mapping goes on there. -/
  required : Bool
  mark : Mark
deriving DecidableEq, Repr

/-- What has been scanned so far. -/
structure Scanner where
  cursor : Cursor
  version : Version := .standard
  /-- The brackets around the cursor, the innermost first. -/
  brackets : List Bracket := []
  /-- The column of the innermost block; `-1` outside of all blocks. -/
  indent : Int := -1
  /-- The columns of the blocks around it. -/
  outer : List Int := []
  /-- Whether a key may begin at the cursor. -/
  keyAllowed : Bool := true
  /-- The places of possible keys, at most one for each level, the innermost first. -/
  keys : List KeyPlace := []
  /-- The number of tokens that have been settled. -/
  settled : Nat := 0
  /-- The tokens behind them, in order. -/
  queue : List Token := []
  finished : Bool := false

namespace Scanner

def mark (scanner : Scanner) : Mark := scanner.cursor.mark

def inFlow (scanner : Scanner) : Bool := !scanner.brackets.isEmpty

def level (scanner : Scanner) : Nat := scanner.brackets.length

def emit (scanner : Scanner) (kind : TokenKind) (after : Cursor) : Scanner :=
  { scanner with
    queue := scanner.queue ++ [⟨kind, scanner.mark, after.mark⟩]
    cursor := after }

def count (scanner : Scanner) : Nat := scanner.settled + scanner.queue.length

/-- Puts a token without any text in behind the first `count` ones. -/
def insertAt (scanner : Scanner) (count : Nat) (kind : TokenKind) (mark : Mark) : Scanner :=
  { scanner with queue := scanner.queue.insertIdx (count - scanner.settled) ⟨kind, mark, mark⟩ }

def refuse {α : Type} (scanner : Scanner) : Except Fault α := scanner.cursor.refuse

def moveTo (scanner : Scanner) (cursor : Cursor) : Scanner := { scanner with cursor }

def allowKey (scanner : Scanner) (keyAllowed : Bool) : Scanner := { scanner with keyAllowed }

/-! ### Possible keys -/

/-- The greatest distance between the beginning of a key and the colon behind it. -/
def maxKeyLength : Nat := 1024

/-- Whether a place is too far back to be that of a key. -/
def isStale (scanner : Scanner) (place : KeyPlace) : Bool :=
  place.mark.line != scanner.mark.line || maxKeyLength < scanner.mark.index - place.mark.index

def dropStale (scanner : Scanner) : Except Fault Scanner :=
  if scanner.keys.any fun place => scanner.isStale place && place.required then scanner.refuse
  else .ok { scanner with keys := scanner.keys.filter fun place => !scanner.isStale place }

def dropKey (scanner : Scanner) : Except Fault Scanner :=
  if scanner.keys.any fun place => place.level == scanner.level && place.required then
    scanner.refuse
  else
    .ok { scanner with keys := scanner.keys.filter fun place => place.level != scanner.level }

def saveKey (scanner : Scanner) : Except Fault Scanner :=
  if scanner.keyAllowed then do
    let required := !scanner.inFlow && scanner.indent == scanner.cursor.column
    let cleared ← scanner.dropKey
    let place : KeyPlace :=
      ⟨scanner.level, scanner.count, required, scanner.mark⟩
    .ok { cleared with keys := place :: cleared.keys }
  else .ok scanner

/-! ### Blocks -/

/-- Closes the blocks whose column is beyond another: the ends, and the columns that are left. -/
def closeBlocks (column : Int) (indent : Int) : List Int → Nat × Int × List Int
  | [] => (0, indent, [])
  | next :: outer =>
    if column < indent then
      let (ends, left) := closeBlocks column next outer
      (ends + 1, left)
    else (0, indent, next :: outer)

/-- Closes the blocks that end at a column. -/
def unwind (scanner : Scanner) (column : Int) : Scanner :=
  if scanner.inFlow then scanner
  else
    let (ends, indent, outer) := closeBlocks column scanner.indent scanner.outer
    let blockEnd : Token := ⟨.blockEnd, scanner.mark, scanner.mark⟩
    { scanner with queue := scanner.queue ++ List.replicate ends blockEnd, indent, outer }

/-- Opens a block at a column, if none is there yet; the token goes behind the first `count`. -/
def openBlock (scanner : Scanner) (column : Nat) (count : Nat) (kind : TokenKind) (mark : Mark) :
    Scanner :=
  if scanner.indent < column then
    { scanner.insertAt count kind mark with
      indent := column, outer := scanner.indent :: scanner.outer }
  else scanner

def openHere (scanner : Scanner) (kind : TokenKind) : Scanner :=
  scanner.openBlock scanner.cursor.column scanner.count kind scanner.mark

/-! ### Tokens -/

def skipToToken (fuel : Nat) (scanner : Scanner) : Scanner :=
  match fuel with
  | 0 => scanner
  | fuel + 1 =>
    let after := scanner.cursor.skipWhile (if scanner.inFlow then isSpaceOrTab else isSpace)
    let after := if after.peek = some '#' then after.toLineEnd else after
    if after.atBreak then
      skipToToken fuel
        { scanner with
          cursor := after.takeBreak.2
          keyAllowed := !scanner.inFlow || scanner.keyAllowed }
    else scanner.moveTo after

def skipOrderMark (scanner : Scanner) : Scanner :=
  if scanner.mark.index = 0 ∧ scanner.cursor.peek = some '\ufeff' then
    scanner.moveTo scanner.cursor.next
  else scanner

def leaveBlocks (scanner : Scanner) : Except Fault Scanner := do
  let left ← (scanner.unwind (-1)).dropKey
  .ok (left.allowKey false)

def takeEnd (scanner : Scanner) : Except Fault Scanner := do
  let left ← scanner.leaveBlocks
  .ok { left.emit .streamEnd left.cursor with keys := [], finished := true }

/-- A directive. A version that it names holds from there on. -/
def takeDirectiveToken (scanner : Scanner) : Except Fault Scanner := do
  let left ← scanner.leaveBlocks
  let (kind, after) ← takeDirective scanner.version scanner.cursor
  let version := match kind with
    | .yamlDirective version => version
    | _ => scanner.version
  .ok { left.emit kind after with version }

def takeMarker (scanner : Scanner) (kind : TokenKind) : Except Fault Scanner := do
  let left ← scanner.leaveBlocks
  .ok (left.emit kind (scanner.cursor.skip 3))

def takeOpening (scanner : Scanner) (bracket : Bracket) : Except Fault Scanner := do
  let saved ← scanner.saveKey
  let kind : TokenKind := match bracket with
    | .square => .flowSequenceStart
    | .curly => .flowMappingStart
  .ok { saved.emit kind scanner.cursor.next with
    brackets := bracket :: scanner.brackets, keyAllowed := true }

/-- A closing bracket. It need not match the opening one; that is seen later. -/
def takeClosing (scanner : Scanner) (kind : TokenKind) : Except Fault Scanner := do
  let cleared ← scanner.dropKey
  .ok { cleared.emit kind scanner.cursor.next with
    brackets := scanner.brackets.tail, keyAllowed := false }

def takeComma (scanner : Scanner) : Except Fault Scanner := do
  let cleared ← scanner.dropKey
  .ok ((cleared.emit .flowEntry scanner.cursor.next).allowKey true)

def takeDash (scanner : Scanner) : Except Fault Scanner :=
  if !scanner.inFlow && !scanner.keyAllowed then scanner.refuse
  else do
    let opened := if scanner.inFlow then scanner else scanner.openHere .blockSequenceStart
    let cleared ← opened.dropKey
    .ok ((cleared.emit .blockEntry scanner.cursor.next).allowKey true)

def takeKey (scanner : Scanner) : Except Fault Scanner :=
  if !scanner.inFlow && !scanner.keyAllowed then scanner.refuse
  else do
    let opened := if scanner.inFlow then scanner else scanner.openHere .blockMappingStart
    let cleared ← opened.dropKey
    .ok ((cleared.emit .key scanner.cursor.next).allowKey (!scanner.inFlow))

def settleKey (scanner : Scanner) (place : KeyPlace) : Scanner :=
  let settled := scanner.insertAt place.token .key place.mark
  let opened :=
    if scanner.inFlow then settled
    else settled.openBlock place.mark.column place.token .blockMappingStart place.mark
  { opened with
    keys := scanner.keys.filter fun other => other.level != scanner.level
    keyAllowed := false }

def takeColon (scanner : Scanner) : Except Fault Scanner := do
  let ready ←
    match scanner.keys.find? fun place => place.level == scanner.level with
    | some place => .ok (scanner.settleKey place)
    | none =>
      if scanner.inFlow then scanner.dropKey.map (·.allowKey false)
      else if scanner.keyAllowed then
        (scanner.openHere .blockMappingStart).dropKey.map (·.allowKey true)
      else scanner.refuse
  .ok (ready.emit .value scanner.cursor.next)

def takeNodePart (scanner : Scanner) (take : Cursor → Except Fault (TokenKind × Cursor)) :
    Except Fault Scanner := do
  let saved ← scanner.saveKey
  let (kind, after) ← take scanner.cursor
  .ok ((saved.emit kind after).allowKey false)

def takeBlockScalar (scanner : Scanner) (folded : Bool) : Except Fault Scanner := do
  let cleared ← scanner.dropKey
  let (text, after) ← takeBlockText folded scanner.indent scanner.cursor.next
  .ok ((cleared.emit (.scalar text false) after).allowKey true)

/-- A plain scalar. A key may begin behind it if a line has ended there. -/
def takePlainScalar (scanner : Scanner) : Except Fault Scanner := do
  let saved ← scanner.saveKey
  let plain := takePlain scanner.inFlow scanner.version scanner.indent scanner.cursor
  .ok ((saved.emit (.scalar plain.text true) plain.after).allowKey plain.newLine)

def wordEndsNext (scanner : Scanner) : Bool := endsWord (scanner.cursor.peekAt 1)

/-- Whether a colon stands before a value. Within curly brackets it does, unless it follows another
colon that is not settled yet. -/
def atValue (scanner : Scanner) : Bool :=
  if !scanner.inFlow then scanner.wordEndsNext
  else if scanner.version.isOld then true
  else
    match scanner.brackets.head? with
    | some .square => scanner.wordEndsNext
    | _ =>
      if (scanner.queue.getLast?.map Token.kind) == some .value then scanner.wordEndsNext else true

def takeToken (scanner : Scanner) : Except Fault Scanner :=
  let cursor := scanner.cursor
  let atLineStart := cursor.column == 0
  let plain : Except Fault Scanner :=
    if startsPlain scanner.inFlow scanner.version cursor then scanner.takePlainScalar
    else scanner.refuse
  match cursor.peek with
  | none => scanner.takeEnd
  | some '%' => if atLineStart then scanner.takeDirectiveToken else plain
  | some '[' => scanner.takeOpening .square
  | some '{' => scanner.takeOpening .curly
  | some ']' => scanner.takeClosing .flowSequenceEnd
  | some '}' => scanner.takeClosing .flowMappingEnd
  | some ',' => scanner.takeComma
  | some '-' =>
    if atLineStart && cursor.atMarker '-' then scanner.takeMarker .documentStart
    else if scanner.wordEndsNext then scanner.takeDash
    else plain
  | some '.' =>
    if atLineStart && cursor.atMarker '.' then scanner.takeMarker .documentEnd else plain
  | some '?' => if scanner.inFlow || scanner.wordEndsNext then scanner.takeKey else plain
  | some ':' => if scanner.atValue then scanner.takeColon else plain
  | some '*' =>
    scanner.takeNodePart fun cursor => do
      let (name, after) ← takeAnchorName cursor
      .ok (.reference name, after)
  | some '&' =>
    scanner.takeNodePart fun cursor => do
      let (name, after) ← takeAnchorName cursor
      .ok (.anchor name, after)
  | some '!' => scanner.takeNodePart (takeTag scanner.version)
  | some '|' => if scanner.inFlow then plain else scanner.takeBlockScalar false
  | some '>' => if scanner.inFlow then plain else scanner.takeBlockScalar true
  | some '\'' | some '"' =>
    scanner.takeNodePart fun cursor => do
      let (text, after) ← takeQuoted cursor
      .ok (.scalar text false, after)
  | some _ => plain

/-- Takes the next token, with the ends of blocks before it. -/
def step (scanner : Scanner) : Except Fault Scanner := do
  let skipped := scanner.skipOrderMark.skipToToken (scanner.cursor.rest.length + 1)
  let ready ← skipped.dropStale
  (ready.unwind ready.cursor.column).takeToken

/-- The number of tokens of the queue before the first possible key. -/
def settledCount (scanner : Scanner) : Nat :=
  scanner.keys.foldl (fun count place => min count (place.token - scanner.settled))
    scanner.queue.length

def settle (scanner : Scanner) : List ReadToken × Scanner :=
  let count := scanner.settledCount
  ((scanner.queue.take count).map (⟨·, scanner.version⟩),
    { scanner with settled := scanner.settled + count, queue := scanner.queue.drop count })

/-- Goes on to the end of the text, or to the first fault. At the end of a text that is cut off,
the fault that cuts it off is met. -/
def run (cutOff : Option Fault) (fuel : Nat) (scanner : Scanner) : TokenStream :=
  match fuel with
  | 0 => ⟨[], some .syntaxNowhere⟩
  | fuel + 1 =>
    match scanner.dropStale with
    | .error fault => ⟨[], some fault⟩
    | .ok scanner =>
      let (tokens, scanner) := scanner.settle
      if scanner.finished then ⟨tokens, none⟩
      else
        match scanner.step with
        | .error fault =>
          ⟨tokens, some (if scanner.cursor.rest.isEmpty then cutOff.getD fault else fault)⟩
        | .ok next =>
          match cutOff with
          | some fault =>
            if next.cursor.rest.isEmpty then ⟨tokens, some fault⟩
            else (run cutOff fuel next).behind tokens
          | none => (run cutOff fuel next).behind tokens

end Scanner

def TokenStream.ofText (text : Text) (cutOff : Option Fault) : TokenStream :=
  Scanner.run cutOff (2 * text.length + 2) { cursor := Cursor.ofText text }

end SessionReplay.Yaml
