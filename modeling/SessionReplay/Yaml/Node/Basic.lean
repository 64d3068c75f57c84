import SessionReplay.Yaml.Tag

/-!
# Nodes

What tokens are put together to: scalars, sequences and mappings, each with its tag and the place
where it begins. Nodes are numbered, and a collection refers to its parts by their numbers, because
a node may be part of several collections and remains one node then.
-/

namespace SessionReplay.Yaml

/-- The number of a node; nodes are numbered in the order in which they begin. -/
abbrev NodeId := Nat

inductive Content where
  | scalar (text : Text)
  | sequence (items : List NodeId)
  | mapping (entries : List (NodeId × NodeId))
deriving DecidableEq, Repr

structure Node where
  tag : Tag
  /-- The place where the node begins. -/
  mark : Mark
  content : Content
  /-- Entries at the beginning of a mapping that have been taken in from other mappings. -/
  taken : List (NodeId × NodeId) := []
deriving DecidableEq, Repr

instance : Inhabited Node := ⟨⟨.null, ⟨0, 0, 0⟩, .scalar [], []⟩⟩

abbrev Graph := Array Node

namespace Graph

def node (graph : Graph) (id : NodeId) : Node := graph.getD id default

def change (graph : Graph) (id : NodeId) (f : Node → Node) : Graph := graph.modify id f

end Graph
end SessionReplay.Yaml
