import SessionReplay.Value.Equality
import SessionReplay.Yaml.Node.Basic

/-!
# Keys

The keys of mappings. Two keys are one if they are the same value; a NaN, which is not the same as
anything, is one with itself. There is one NaN that the word for it stands for, and each NaN that is
computed is another one.
-/

namespace SessionReplay.Yaml

inductive NanIdentity where
  /-- The one that the word stands for. -/
  | named
  /-- The one that a node is. -/
  | ofNode (id : NodeId)
deriving DecidableEq, Repr

/-- A value that can be a key. -/
structure Key where
  value : Value
  /-- The NaNs in it, in order. -/
  nans : List NanIdentity := []

namespace Key

mutual

/-- Whether two values are the same but for which NaN a NaN is. -/
def agree : Value → Value → Bool
  | .float .nan, .float .nan => true
  | .tuple xs, .tuple ys => agreeItems xs ys
  | a, b => a.same b
termination_by structural a => a

def agreeItems : List Value → List Value → Bool
  | [], [] => true
  | x :: xs, y :: ys => agree x y && agreeItems xs ys
  | _, _ => false
termination_by structural xs => xs

end

def same (a b : Key) : Bool := agree a.value b.value && a.nans == b.nans

def tuple (keys : List Key) : Key := ⟨.tuple (keys.map value), keys.flatMap nans⟩

end Key

/-- Sets the value of a key. A key that is there keeps its place and its spelling. -/
def setEntry {α : Type} (entries : List (Key × α)) (key : Key) (value : α) : List (Key × α) :=
  match entries with
  | [] => [(key, value)]
  | entry :: rest =>
    if entry.1.same key then (entry.1, value) :: rest else entry :: setEntry rest key value

def hasKey {α : Type} (entries : List (Key × α)) (key : Key) : Bool :=
  entries.any fun entry => entry.1.same key

end SessionReplay.Yaml
