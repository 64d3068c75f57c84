import SessionReplay.Yaml.Node.Key
import SessionReplay.Yaml.Node.Merge
import SessionReplay.Yaml.Node.Scalar

/-!
# The data of a node

A node becomes the data that its tag says it is, once for all places where it stands. A collection
begins empty and waits; it is filled after all collections that have begun before. So of several
faults the one that stands least deep is met, and of those that stand equally deep the first. Keys,
and what is in them, are filled at once. A key is what its node holds at that time: a list that still
waits is an empty key.
-/

namespace SessionReplay.Yaml

/-- What has been built of a node. -/
inductive Part where
  | scalar (key : Key)
  | list (items : List NodeId)
  | pairs (items : List (NodeId × NodeId))
  | dict (entries : List (Key × NodeId))
  /-- A mapping that is written as a list of its entries. -/
  | orderedDict (entries : List (Key × NodeId))
  | set (keys : List Key)

/-- What has been built of the nodes of a text. -/
structure Building where
  version : Version
  graph : Graph
  /-- What has been built of each node. -/
  parts : Array (Option Part)
  /-- The collections that are to be filled, in order. -/
  waiting : List NodeId := []

abbrev Build (α : Type) := StateT Building (Except Fault) α

namespace Build

def refuse {α : Type} (fault : Fault) : Build α := throw fault

def refuseAt {α : Type} (mark : Mark) : Build α := throw (.syntaxAt mark)

/-- The result of something that does not build. -/
def ofExcept {α : Type} (result : Except Fault α) : Build α := fun state => result.map (·, state)

def ofData {α : Type} (result : Except DataFault α) : Build α := ofExcept (result.mapError .data)

def onGraph {α : Type} (change : GraphChange α) : Build α := fun state =>
  (change.run state.graph).map fun (result, graph) => (result, { state with graph })

def node (id : NodeId) : Build Node := return (← get).graph.node id

def part? (id : NodeId) : Build (Option Part) := return (← get).parts.getD id none

def setPart (id : NodeId) (part : Part) : Build Unit :=
  modify fun state => { state with parts := state.parts.setIfInBounds id (some part) }

/-- No more steps lead from a node to its parts, the parts of those and so on. -/
def depth : Build Nat := return (← get).graph.size + 1

/-! ### Keys -/

/-- The kind of a part that cannot be part of a key. -/
def partKind : Part → Text
  | .scalar key => key.value.kind
  | .list _ | .pairs _ => "list"
  | .dict _ => "dict"
  | .orderedDict _ => "ordereddict"
  | .set _ => "set"

/-- A node as part of a key; only scalars can be, and of others the kind is told. -/
def keyPart (id : NodeId) : Build (Except Text Key) := do
  match ← part? id with
  | some (.scalar key) => return .ok key
  | some part => return .error (partKind part)
  | none => return .error []

/-- Several keys as one; of those that are none, the first one is told. -/
def joinKeys (keys : List (Except Text Key)) : Except Text Key := (keys.mapM id).map Key.tuple

/-- Several nodes as one key. -/
def keyParts (ids : List NodeId) : Build (Except Text Key) :=
  return joinKeys (← ids.mapM keyPart)

/-- A node as a key: a list is a tuple. Nothing, if it is another collection. -/
def key? (id : NodeId) : Build (Option (Except Text Key)) := do
  match ← part? id with
  | some (.scalar key) => return some (.ok key)
  | some (.list items) => return some (← keyParts items)
  | some (.pairs items) =>
    return some (joinKeys (← items.mapM fun (first, second) => keyParts [first, second]))
  | _ => return none

/-! ### Scalars -/

/-- The data of a float, with the node as its identity if it is a NaN without its word. -/
def floatKey (id : NodeId) (text : Text) (x : Double) : Key :=
  match x with
  | .nan => ⟨.float x, [if isNanWord text then .named else .ofNode id]⟩
  | _ => ⟨.float x, []⟩

/-- The data of a scalar; nothing, if the node is a collection. -/
def scalarKey? (id : NodeId) : Build (Option Key) := do
  let state ← get
  let node := state.graph.node id
  let text : Build Text := do ofExcept (state.graph.scalarText (← depth) id)
  let plain (value : Value) : Option Key := some ⟨value, []⟩
  match node.tag with
  | .null => do
    let _ ← text
    return plain .null
  | .bool => return plain (.bool (← ofData (boolOf (← text))))
  | .integer => return plain (.int (← ofData (integerOf state.version (← text))))
  | .float => do
    let text ← text
    return some (floatKey id text (← ofData (floatOf state.version text)))
  | .bytes => return plain (.bytes (← ofExcept (bytesOf node.mark (← text))))
  | .text => return plain (.text (← text))
  | .time => return plain (← ofExcept node.time)
  | .merge | .standIn | .unknown => refuseAt node.mark
  | .sequence | .mapping | .set | .orderedMapping | .pairs => return none

/-! ### Collections -/

/-- A reader of nodes: it builds a node, if that is still to be done. The flag tells whether
collections are filled at once. -/
abbrev NodeBuilder := Bool → NodeId → Build Unit

def addEntry (build : NodeBuilder) (atOnce unique : Bool) (done : List (Key × NodeId))
    (entry : NodeId × NodeId) : Build (List (Key × NodeId)) := do
  let (keyId, valueId) := entry
  build true keyId
  match ← key? keyId with
  | none => refuseAt (← node keyId).mark
  | some result =>
    build atOnce valueId
    match result with
    | .error kind => refuse (.data (.keyPart kind))
    | .ok key =>
      if unique && hasKey done key then refuseAt (← node keyId).mark
      else return setEntry done key valueId

/-- The entries of a mapping, with those that it takes in. -/
def mappingEntries (build : NodeBuilder) (atOnce : Bool) (id : NodeId) :
    Build (List (Key × NodeId)) := do
  onGraph (GraphChange.merge (← depth) id)
  let node ← node id
  match node.content with
  | .mapping entries => entries.foldlM (addEntry build atOnce node.taken.isEmpty) []
  | _ => refuseAt node.mark

def soleEntry (id : NodeId) : Build (NodeId × NodeId) := do
  let node ← node id
  match node.content with
  | .mapping [entry] => return entry
  | _ => refuseAt node.mark

def items (id : NodeId) : Build (List NodeId) := do
  let node ← node id
  match node.content with
  | .sequence items => return items
  | _ => refuseAt node.mark

def pair (build : NodeBuilder) (atOnce : Bool) (id : NodeId) : Build (NodeId × NodeId) := do
  let entry ← soleEntry id
  build atOnce entry.1
  build atOnce entry.2
  return entry

/-- Adds an entry of an ordered mapping, whose keys are scalars. -/
def addOrdered (build : NodeBuilder) (atOnce : Bool) (done : List (Key × NodeId)) (id : NodeId) :
    Build (List (Key × NodeId)) := do
  let (keyId, valueId) ← soleEntry id
  build atOnce keyId
  match ← keyPart keyId with
  | .error kind => refuse (.data (.keyPart kind))
  | .ok key =>
    if hasKey done key then refuse (.data .repeatedKey)
    else
      build atOnce valueId
      return setEntry done key valueId

def fill (build : NodeBuilder) (atOnce : Bool) (id : NodeId) : Build Unit := do
  match (← node id).tag with
  | .mapping => setPart id (.dict (← mappingEntries build atOnce id))
  | .set => setPart id (.set ((← mappingEntries build atOnce id).map Prod.fst))
  | .pairs => setPart id (.pairs (← (← items id).mapM (pair build atOnce)))
  | .orderedMapping =>
    setPart id (.orderedDict (← (← items id).foldlM (addOrdered build atOnce) []))
  | _ =>
    let items ← items id
    items.forM (build atOnce)
    setPart id (.list items)

def emptyPart : Tag → Part
  | .mapping => .dict []
  | .set => .set []
  | .pairs => .pairs []
  | .orderedMapping => .orderedDict []
  | _ => .list []

/-- Builds a node from which fewer than `depth` steps lead to parts. -/
def buildWithin : Nat → NodeBuilder
  | 0, _, _ => refuse (.data .endless)
  | depth + 1, atOnce, id => do
    if (← part? id).isNone then
      match ← scalarKey? id with
      | some key => setPart id (.scalar key)
      | none =>
        setPart id (emptyPart (← node id).tag)
        if atOnce then fill (buildWithin depth) true id
        else modify fun state => { state with waiting := state.waiting ++ [id] }

/-- Fills the collections that wait; there are fewer than `count`. -/
def fillWaiting : Nat → Build Unit
  | 0 => return
  | count + 1 => do
    match (← get).waiting with
    | [] => return
    | id :: rest =>
      modify fun state => { state with waiting := rest }
      fill (buildWithin (← depth)) false id
      fillWaiting count

end Build

/-! ### Data -/

/-- The data that has been built of a node, through fewer than `depth` collections. -/
def Building.value (building : Building) : Nat → NodeId → Except Fault Value
  | 0, _ => .error (.data .endless)
  | depth + 1, id =>
    let entry (entry : Key × NodeId) : Except Fault (Value × Value) := do
      return (entry.1.value, ← building.value depth entry.2)
    match building.parts.getD id none with
    | some (.scalar key) => .ok key.value
    | some (.list items) => return .list (← items.mapM (building.value depth))
    | some (.pairs items) => do
      let pair (entry : NodeId × NodeId) : Except Fault Value := do
        return .tuple [← building.value depth entry.1, ← building.value depth entry.2]
      return .list (← items.mapM pair)
    | some (.dict entries) => return .dict (← entries.mapM entry)
    | some (.orderedDict entries) => return .ordered (← entries.mapM entry)
    | some (.set keys) => .ok (.set (keys.map Key.value))
    | none => .error .syntaxNowhere

def Graph.value (graph : Graph) (version : Version) (id : NodeId) : Except Fault Value := do
  let build : Build Unit := do
    Build.buildWithin (← Build.depth) false id
    Build.fillWaiting (graph.size + 1)
  let building : Building := { version, graph, parts := Array.replicate graph.size none }
  let (_, building) ← build.run building
  building.value (graph.size + 1) id

end SessionReplay.Yaml
