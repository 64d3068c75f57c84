import SessionReplay.Value.Basic

/-!
# Equality of values

Two values are the same when they are equal as data: numbers of all kinds compare by their exact
numeric value, with the truth values as zero and one; NaN is not the same as anything;
dictionaries and sets compare without regard to order, but two ordered dictionaries place by place;
a list is never the same as a tuple.
-/

namespace SessionReplay.Value

def asInt? : Value → Option Int
  | .bool b => some (if b then 1 else 0)
  | .int n => some n
  | _ => none

def sameLeaf : Value → Value → Bool
  | .null, .null => true
  | .text s, .text t => s == t
  | .bytes s, .bytes t => s == t
  | .date s, .date t => s == t
  | .moment s, .moment t => s.same t
  | .float x, .float y => x.sameNumber y
  | .float x, b => b.asInt?.isSome && x.toInt? == b.asInt?
  | a, .float y => a.asInt?.isSome && y.toInt? == a.asInt?
  | a, b => a.asInt?.isSome && a.asInt? == b.asInt?

mutual

def same : Value → Value → Bool
  | .list xs, .list ys => sameItems xs ys
  | .tuple xs, .tuple ys => sameItems xs ys
  | .set xs, .set ys => xs.length == ys.length && allAmong xs ys
  | .dict xs, .dict ys | .dict xs, .ordered ys | .ordered xs, .dict ys =>
    xs.length == ys.length && allEntriesAmong xs ys
  | .ordered xs, .ordered ys => sameEntries xs ys
  | a, b => sameLeaf a b
termination_by structural a => a

def sameItems : List Value → List Value → Bool
  | [], [] => true
  | x :: xs, y :: ys => same x y && sameItems xs ys
  | _, _ => false
termination_by structural xs => xs

def sameEntries : List (Value × Value) → List (Value × Value) → Bool
  | [], [] => true
  | (key, value) :: xs, other :: ys => same key other.1 && same value other.2 && sameEntries xs ys
  | _, _ => false
termination_by structural xs => xs

def allAmong : List Value → List Value → Bool
  | [], _ => true
  | x :: xs, ys => ys.any (same x ·) && allAmong xs ys
termination_by structural xs => xs

def allEntriesAmong : List (Value × Value) → List (Value × Value) → Bool
  | [], _ => true
  | (key, value) :: xs, ys =>
    ys.any (fun other => same key other.1 && same value other.2) && allEntriesAmong xs ys
termination_by structural xs => xs

end

def lookup (key : Value) (entries : List (Value × Value)) : Option Value :=
  (entries.find? fun entry => same key entry.1).map Prod.snd

/-- Sets a key of a dictionary. A key that is there keeps its place and its spelling. -/
def insert (key value : Value) : List (Value × Value) → List (Value × Value)
  | [] => [(key, value)]
  | entry :: rest =>
    if same key entry.1 then (entry.1, value) :: rest else entry :: insert key value rest

def ofEntries (entries : List (Value × Value)) : List (Value × Value) :=
  entries.foldl (fun done entry => insert entry.1 entry.2 done) []

/-- Sets what stands at the end of a path of keys through dictionaries. -/
def setAt (path : List Value) (value : Value) (target : Value) : Value :=
  match path, target with
  | [], _ => value
  | key :: rest, .dict entries =>
    .dict (insert key (setAt rest value ((lookup key entries).getD (.dict []))) entries)
  | _ :: _, other => other

end SessionReplay.Value
