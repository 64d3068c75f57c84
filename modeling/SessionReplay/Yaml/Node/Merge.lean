import SessionReplay.Yaml.Node.Basic

/-!
# Mappings that take in others

The key `<<` takes the entries of another mapping, or of several, into its own. They come first, so
that the mapping's own entries replace them; of several mappings the first one counts most. What is
taken in stays with the node, and a mapping that has given its entries away has taken in what it
refers to itself.
-/

namespace SessionReplay.Yaml

abbrev NodeEntries := List (NodeId × NodeId)

abbrev GraphChange (α : Type) := StateT Graph (Except Fault) α

namespace GraphChange

/-- The entries that a mapping gives to another once it has `merged`; nothing but a mapping can. -/
def given (merge : NodeId → GraphChange Unit) (id : NodeId) : GraphChange NodeEntries := do
  match ((← get).node id).content with
  | .mapping _ =>
    merge id
    match ((← get).node id).content with
    | .mapping entries => return entries
    | _ => return []
  | _ => throw (.syntaxAt ((← get).node id).mark)

/-- The entries that stand behind the key `<<`. -/
def takenIn (merge : NodeId → GraphChange Unit) (id : NodeId) : GraphChange NodeEntries := do
  match ((← get).node id).content with
  | .sequence items => return (← items.mapM (given merge)).reverse.flatten
  | _ => given merge id

/-- Splits entries into those that are taken in and the own ones. Only one key may take in
something. A key for the value that stands for a mapping as a whole becomes a text. -/
def split (merge : NodeId → GraphChange Unit) (taken own : NodeEntries) :
    NodeEntries → GraphChange (NodeEntries × NodeEntries)
  | [] => return (taken, own)
  | (key, value) :: rest => do
    let node := (← get).node key
    match node.tag with
    | .merge =>
      if taken.isEmpty then split merge (← takenIn merge value) own rest
      else throw (.syntaxAt node.mark)
    | .standIn =>
      modify fun graph => graph.change key ({ · with tag := .text })
      split merge taken (own ++ [(key, value)]) rest
    | _ => split merge taken (own ++ [(key, value)]) rest

/-- Takes in what a mapping refers to, through fewer than `depth` mappings. -/
def merge : Nat → NodeId → GraphChange Unit
  | 0, _ => throw (.data .endless)
  | depth + 1, id => do
    match ((← get).node id).content with
    | .mapping entries =>
      let (taken, own) ← split (merge depth) [] [] entries
      modify fun graph => graph.change id fun node =>
        { node with
          content := .mapping (taken ++ own)
          taken := if taken.isEmpty then node.taken else taken }
    | _ => return

end GraphChange
end SessionReplay.Yaml
