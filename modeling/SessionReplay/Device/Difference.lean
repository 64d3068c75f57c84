import SessionReplay.Value.Equality

/-!
# Differences from a device

Settings that are the same as those of a device need not be written beside it. What is left goes
before the device's own settings, so that both together are as if all had been written.
-/

namespace SessionReplay.Value

/-- Whether a dictionary holds the same value under the key of an entry. -/
def agrees (preset : List (Value × Value)) (entry : Value × Value) : Bool :=
  match lookup entry.1 preset with
  | some value => same value entry.2
  | none => false

def differing (preset entries : List (Value × Value)) : List (Value × Value) :=
  entries.filter fun entry => !agrees preset entry

theorem differing_idem (preset entries : List (Value × Value)) :
    differing preset (differing preset entries) = differing preset entries := by
  simp [differing]

end SessionReplay.Value
