import SessionReplay.Yaml.Node.Compose
import SessionReplay.Yaml.Node.Data
import SessionReplay.Yaml.Token.Stream

/-!
# Documents

A text holds one document at most: directives and a start marker, which may be missing, then one
node, then perhaps an end marker.
-/

namespace SessionReplay.Yaml

namespace Compose

def usualHandles : List (Text × Text) := [("!", "!"), ("!!", knownTags)]

/-- Takes the directives before a document, `named` being the version that has been named. There may
be one version, and one directive for each handle. -/
def directives (named : Option Version) (handles : List (Text × Text)) : Nat → Compose Unit
  | 0 => throw .syntaxNowhere
  | fuel + 1 => do
    let next ← peek
    match next.kind with
    | .yamlDirective version =>
      if named.isSome || version.major ≠ 1 then refuseAt next.start
      else
        let _ ← take
        directives version handles fuel
    | .tagDirective handle replacement =>
      if (handles.lookup handle).isSome then refuseAt next.start
      else
        let _ ← take
        directives named ((handle, replacement) :: handles) fuel
    | .otherDirective =>
      let _ ← take
      directives named handles fuel
    | _ =>
      match named.filter fun version => !version.isKnown with
      | some version => throw (.data (.minorVersion version.major version.minor))
      | none => modify fun state => { state with handles := handles ++ usualHandles }

/-- The start marker of a document, with the directives before it. -/
def startMarker : Compose Token := do
  directives none [] ((← get).rest.length + 1)
  let next ← take
  if next.kind = .documentStart then return next else refuseAt next.start

def atStart (token : Token) : Bool :=
  match token.kind with
  | .yamlDirective _ | .tagDirective _ _ | .otherDirective | .documentStart => true
  | _ => false

def documentContent : Compose NodeId := do
  let next ← peek
  if atStart next || next.kind = .documentEnd || next.kind = .streamEnd then
    emptyScalar none next.start
  else node .block

def skipEndMarkers : Nat → Compose Unit
  | 0 => return
  | fuel + 1 => do
    if ← nextIs [.documentEnd] then
      let _ ← take
      skipEndMarkers fuel

/-- Nothing but the end may follow a document, and nothing may stand behind an end marker on its
line. Behind an end marker another document would need no start marker, but in version 1.1 it
would. -/
def endOfText : Compose Unit := do
  let ended ← nextIs [.documentEnd]
  if ended then
    let marker ← take
    let next ← peek
    if next.kind ≠ .streamEnd ∧ next.start.line = marker.stop.line then refuseAt next.start
  let inclined := ended && !(← get).version.isOld
  let next ← peek
  if !inclined || atStart next then
    skipEndMarkers ((← get).rest.length + 1)
    if !(← nextIs [.streamEnd]) then refuseAt (← startMarker).start
  else if next.kind ≠ .streamEnd then refuseAt next.start

def document : Compose (Option NodeId) := do
  let next ← peek
  if next.kind = .streamEnd then return none
  let node ←
    if atStart next then
      let _ ← startMarker
      documentContent
    else
      modify fun state => { state with handles := usualHandles }
      node .block
  endOfText
  return some node

end Compose

/-- The data of the document that tokens make up; no document is no data. -/
def TokenStream.value (stream : TokenStream) : Except Fault Value := do
  let (node, state) ← Compose.document.run
    { rest := stream.tokens, fault := stream.fault.getD .syntaxNowhere }
  match node with
  | some node => state.graph.value state.version node
  | none => .ok .null

/-- The data of a text. Behind the text lies a fault if it is cut off. -/
def read (text : Text) (cutOff : Option Fault) : Except Fault Value :=
  (TokenStream.ofText text cutOff).value

end SessionReplay.Yaml
