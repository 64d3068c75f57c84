import SessionReplay.Text.Basic

/-!
# Modifier keys

The keys held during a click or a key press, as the bits of a mask.
-/

namespace SessionReplay

inductive Modifier where
  | alt
  | control
  | metaKey
  | shift
deriving DecidableEq, Repr

namespace Modifier

def all : List Modifier := [.alt, .control, .metaKey, .shift]

def bit : Modifier → Int
  | .alt => 1
  | .control => 2
  | .metaKey => 4
  | .shift => 8

def name : Modifier → Text
  | .alt => "Alt"
  | .control => "Control"
  | .metaKey => "Meta"
  | .shift => "Shift"

/-- Whether a mask has the bit of a modifier. A negative mask has all bits beyond its digits. -/
def isHeld (mask : Int) (modifier : Modifier) : Bool := mask / modifier.bit % 2 == 1

def held (mask : Int) : List Modifier := all.filter (isHeld mask)

/-- Only the four lowest bits of a mask count. -/
theorem held_emod (mask : Int) : held (mask % 16) = held mask := by
  have h : isHeld (mask % 16) = isHeld mask := by
    funext m
    cases m <;> simp only [isHeld, bit] <;> congr 1 <;> omega
  simp only [held, h]

def heldNames (mask : Int) : List Text := (held mask).map name

/-- A key together with the modifiers held, as one shortcut. -/
def shortcut (mask : Int) (key : Text) : Text := Text.join "+" (heldNames mask ++ [key])

end Modifier
end SessionReplay
