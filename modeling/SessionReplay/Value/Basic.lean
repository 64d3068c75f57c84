import SessionReplay.Number.Double
import SessionReplay.Value.Moment

/-!
# Values

The data that a recording file can hold and that a browser option can be set to. Dictionaries keep
the order of their entries. A tuple is a list that stands as a key; bytes, dates, moments, sets and
ordered dictionaries come only from tagged data.
-/

namespace SessionReplay

inductive Value where
  | null
  | bool (b : Bool)
  | int (n : Int)
  | float (x : Double)
  | text (t : Text)
  | bytes (data : List UInt8)
  | date (day : Date)
  | moment (time : Moment)
  | list (items : List Value)
  | tuple (items : List Value)
  | set (items : List Value)
  | dict (entries : List (Value × Value))
  /-- A dictionary that was written as a list of its entries, so that their order counts. -/
  | ordered (entries : List (Value × Value))

namespace Value

instance : Inhabited Value := ⟨.null⟩
instance : Coe Text Value := ⟨.text⟩

/-- Whether the value counts as empty or zero: such a key is no name for what it holds. -/
def isFalsy : Value → Bool
  | .null => true
  | .bool b => !b
  | .int n => n == 0
  | .float x => x.isZero
  | .text t => t.isEmpty
  | .bytes data => data.isEmpty
  | .date _ | .moment _ => false
  | .list items | .tuple items | .set items => items.isEmpty
  | .dict entries | .ordered entries => entries.isEmpty

def entries? : Value → Option (List (Value × Value))
  | .dict entries | .ordered entries => some entries
  | _ => none

end Value

/-- The entries of a dictionary whose keys are texts. -/
abbrev Options := List (Text × Value)

end SessionReplay
