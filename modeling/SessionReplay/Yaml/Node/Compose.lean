import SessionReplay.Yaml.Node.Basic

/-!
# Nodes from tokens

A node is read from the tokens that it begins with. Where a node is missing between two signs of a
collection, an empty scalar stands there.
-/

namespace SessionReplay.Yaml

/-- Tokens to be read, and what has been composed before them. -/
structure Composition where
  rest : List ReadToken
  /-- What is met behind the last token. -/
  fault : Fault
  /-- The version whose rules hold, as far as tokens have been looked at. -/
  version : Version := .standard
  /-- What the handles of tags stand for. -/
  handles : List (Text × Text) := []
  /-- The anchored nodes; the node whose anchor comes last stands first. -/
  anchors : List (Text × NodeId) := []
  graph : Graph := #[]

abbrev Compose (α : Type) := StateT Composition (Except Fault) α

namespace Compose

def refuseAt {α : Type} (mark : Mark) : Compose α := throw (.syntaxAt mark)

def peek : Compose Token := do
  match (← get).rest with
  | next :: _ =>
    modify fun state => { state with version := next.version }
    return next.token
  | [] => throw (← get).fault

def take : Compose Token := do
  let token ← peek
  modify fun state => { state with rest := state.rest.tail }
  return token

def nextIs (kinds : List TokenKind) : Compose Bool := return kinds.contains (← peek).kind

/-! ### Properties -/

structure Properties where
  anchor : Option Text := none
  tag : Option Text := none
  /-- Where they begin. -/
  start : Option Mark := none

/-- The tag in full: what its handle stands for, and the rest. -/
def fullTag (mark : Mark) (handle : Option Text) (suffix : Text) : Compose Text := do
  match handle with
  | none => return suffix
  | some handle =>
    match (← get).handles.lookup handle with
    | some front => return front ++ suffix
    | none => refuseAt mark

/-- Takes anchor and tag, in either order. An anchor behind a tag is taken for their beginning. -/
def properties : Compose Properties := do
  let first ← peek
  match first.kind with
  | .anchor name =>
    let _ ← take
    let second ← peek
    match second.kind with
    | .tag handle suffix =>
      let _ ← take
      let tag ← fullTag second.start handle suffix
      return { anchor := name, tag, start := first.start }
    | _ => return { anchor := name, start := first.start }
  | .tag handle suffix =>
    let _ ← take
    let second ← peek
    match second.kind with
    | .anchor name =>
      let _ ← take
      let tag ← fullTag second.start handle suffix
      return { anchor := name, tag, start := second.start }
    | _ => return { tag := ← fullTag first.start handle suffix, start := first.start }
  | _ => return {}

/-- The tag that leaves it to the text what a node is. -/
def openTag : Text := "!"

def scalarTag (tag : Option Text) (plain : Bool) (text : Text) : Compose Tag := do
  if tag = some openTag || (tag.isNone && plain) then
    match Tag.ofPlain (← get).version text with
    | .ok tag => return tag
    | .error fault => throw (.data fault)
  else return (tag.map Tag.ofText).getD .text

def collectionTag (tag : Option Text) (usual : Tag) : Tag :=
  if tag = some openTag then usual else (tag.map Tag.ofText).getD usual

def newNode (node : Node) : Compose NodeId := do
  let id := (← get).graph.size
  modify fun state => { state with graph := state.graph.push node }
  return id

def setContent (id : NodeId) (content : Content) : Compose Unit :=
  modify fun state => { state with graph := state.graph.change id ({ · with content }) }

def nameNode (anchor : Option Text) (id : NodeId) : Compose Unit :=
  match anchor with
  | none => return
  | some name => modify fun state => { state with anchors := (name, id) :: state.anchors }

/-- The scalar that stands where nothing is written. -/
def emptyScalar (tag : Option Text) (mark : Mark) : Compose NodeId := do
  newNode { tag := ← scalarTag tag true [], mark, content := .scalar [] }

/-- A node, or an empty scalar behind a sign if one of some tokens follows. -/
def nodeBehind (sign : Token) (ends : List TokenKind) (node : Compose NodeId) : Compose NodeId := do
  if ← nextIs ends then emptyScalar none sign.stop else node

/-! ### Collections -/

inductive Place where
  | flow
  | block
  /-- In a block mapping, where a sequence needs no indentation. -/
  | blockEntry
deriving DecidableEq, Repr

abbrev NodeReader := Place → Compose NodeId

def blockItems (node : NodeReader) : Nat → Compose (List NodeId)
  | 0 => throw .syntaxNowhere
  | fuel + 1 => do
    let sign ← take
    match sign.kind with
    | .blockEntry =>
      let item ← nodeBehind sign [.blockEntry, .blockEnd] (node .block)
      return item :: (← blockItems node fuel)
    | .blockEnd => return []
    | _ => refuseAt sign.start

def indentlessItems (node : NodeReader) : Nat → Compose (List NodeId)
  | 0 => throw .syntaxNowhere
  | fuel + 1 => do
    if ← nextIs [.blockEntry] then
      let sign ← take
      let item ← nodeBehind sign [.blockEntry, .key, .value, .blockEnd] (node .block)
      return item :: (← indentlessItems node fuel)
    else return []

def entryValue (ends : List TokenKind) (node : Compose NodeId) : Compose NodeId := do
  let sign ← peek
  if sign.kind = .value then
    let _ ← take
    nodeBehind sign ends node
  else emptyScalar none sign.start

def blockEntryEnds : List TokenKind := [.key, .value, .blockEnd]

/-- The value of an entry of a block mapping. A missing one is placed behind the token that stands
in its place. -/
def blockEntryValue (node : NodeReader) : Compose NodeId := do
  let sign ← peek
  if sign.kind = .value then
    let _ ← take
    let next ← peek
    if blockEntryEnds.contains next.kind then emptyScalar none next.stop else node .blockEntry
  else emptyScalar none sign.start

/-- The entries of a block mapping. A colon without a key before it is an empty key, but not in
version 1.1. -/
def blockEntries (node : NodeReader) : Nat → Compose (List (NodeId × NodeId))
  | 0 => throw .syntaxNowhere
  | fuel + 1 => do
    let sign ← peek
    match sign.kind with
    | .key =>
      let _ ← take
      let key ← nodeBehind sign blockEntryEnds (node .blockEntry)
      let value ← blockEntryValue node
      return (key, value) :: (← blockEntries node fuel)
    | .blockEnd =>
      let _ ← take
      return []
    | _ =>
      if sign.kind = .value && (← get).version.isNewer then
        let key ← emptyScalar none sign.start
        let value ← blockEntryValue node
        return (key, value) :: (← blockEntries node fuel)
      else refuseAt sign.start

/-- Takes the comma between two parts of a collection in brackets; there is none before the first. -/
def takeComma (first : Bool) (close : TokenKind) : Compose Unit := do
  if !first && !(← nextIs [close]) then
    let sign ← take
    if sign.kind ≠ .flowEntry then refuseAt sign.start

def singlePair (node : NodeReader) : Compose NodeId := do
  let sign ← take
  let id ← newNode { tag := .mapping, mark := sign.start, content := .mapping [] }
  let key ← nodeBehind sign [.value, .flowEntry, .flowSequenceEnd] (node .flow)
  let value ← entryValue [.flowEntry, .flowSequenceEnd] (node .flow)
  setContent id (.mapping [(key, value)])
  return id

def flowItems (node : NodeReader) (first : Bool) : Nat → Compose (List NodeId)
  | 0 => throw .syntaxNowhere
  | fuel + 1 => do
    takeComma first .flowSequenceEnd
    let next ← peek
    match next.kind with
    | .flowSequenceEnd =>
      let _ ← take
      return []
    | .key =>
      let item ← singlePair node
      return item :: (← flowItems node false fuel)
    | _ =>
      let item ← node .flow
      return item :: (← flowItems node false fuel)

/-- An entry of a mapping in brackets. A colon without a key before it is an empty key, but not in
version 1.1. -/
def flowEntry (node : NodeReader) : Compose (NodeId × NodeId) := do
  let sign ← peek
  if sign.kind = .key then
    let _ ← take
    let key ← nodeBehind sign [.value, .flowEntry, .flowMappingEnd] (node .flow)
    return (key, ← entryValue [.flowEntry, .flowMappingEnd] (node .flow))
  else if sign.kind = .value && (← get).version.isNewer then
    let key ← emptyScalar none sign.stop
    return (key, ← entryValue [.flowEntry, .flowMappingEnd] (node .flow))
  else
    let key ← node .flow
    return (key, ← emptyScalar none (← peek).start)

def flowEntries (node : NodeReader) (first : Bool) : Nat → Compose (List (NodeId × NodeId))
  | 0 => throw .syntaxNowhere
  | fuel + 1 => do
    takeComma first .flowMappingEnd
    if ← nextIs [.flowMappingEnd] then
      let _ ← take
      return []
    else
      let entry ← flowEntry node
      return entry :: (← flowEntries node false fuel)

/-! ### Nodes -/

def anchored (mark : Mark) (name : Text) : Compose NodeId := do
  match (← get).anchors.lookup name with
  | some id => return id
  | none => refuseAt mark

/-- A collection: it begins with the next token, and its parts follow. Its name stands for it among
its own parts already. -/
def collection (properties : Properties) (tag : Tag) (mark : Mark) (empty : Content)
    (parts : Compose Content) : Compose NodeId := do
  let id ← newNode { tag := collectionTag properties.tag tag, mark, content := empty }
  nameNode properties.anchor id
  setContent id (← parts)
  return id

def content (node : NodeReader) (place : Place) (properties : Properties) : Compose NodeId := do
  let next ← peek
  let fuel := (← get).rest.length + 1
  let mark := properties.start.getD next.start
  let sequence (items : Compose (List NodeId)) : Compose NodeId :=
    collection properties .sequence mark (.sequence []) (.sequence <$> items)
  let mapping (entries : Compose (List (NodeId × NodeId))) : Compose NodeId :=
    collection properties .mapping mark (.mapping []) (.mapping <$> entries)
  let missing : Compose NodeId := do
    if properties.start.isSome then
      let id ← emptyScalar properties.tag mark
      nameNode properties.anchor id
      return id
    else refuseAt next.start
  match next.kind with
  | .scalar text plain =>
    let _ ← take
    let tag ← scalarTag properties.tag plain text
    let id ← newNode { tag, mark, content := .scalar text }
    nameNode properties.anchor id
    return id
  | .flowSequenceStart => sequence do
    let _ ← take
    flowItems node true fuel
  | .flowMappingStart => mapping do
    let _ ← take
    flowEntries node true fuel
  | .blockSequenceStart =>
    if place = .flow then missing
    else sequence do
      let _ ← take
      blockItems node fuel
  | .blockMappingStart =>
    if place = .flow then missing
    else mapping do
      let _ ← take
      blockEntries node fuel
  | .blockEntry => if place = .blockEntry then sequence (indentlessItems node fuel) else missing
  | _ => missing

/-- The node that begins with the next token. Each collection within another takes a token of its
own, so nodes cannot be nested deeper than there are tokens. -/
def nodeWithin : Nat → NodeReader
  | 0, _ => throw .syntaxNowhere
  | fuel + 1, place => do
    let first ← peek
    match first.kind with
    | .reference name =>
      let _ ← take
      anchored first.start name
    | _ => content (nodeWithin fuel) place (← properties)

def node (place : Place) : Compose NodeId := do
  nodeWithin ((← get).rest.length + 1) place

end Compose
end SessionReplay.Yaml
