import SessionReplay.Text.Basic

/-!
# Control sequences

A terminal takes some texts as orders: an escape character and a bracket, parameters, and a letter.
Where a text goes to anything else, its control sequences are left out, each as soon as it is met;
what the rest makes up when it moves together is not looked at again.
-/

namespace SessionReplay.Text

def isParameter (c : Char) : Bool := c.isDigit || c == ';' || c == '?'

/-- The length of the control sequence that a text begins with, if it begins with one. -/
def controlLength? : Text → Option Nat
  | '\x1b' :: '[' :: rest =>
    match rest.dropWhile isParameter with
    | letter :: _ =>
      if letter.isAlpha then some ((rest.takeWhile isParameter).length + 3) else none
    | [] => none
  | _ => none

/-- Leaves out control sequences, and first as many characters as are left of the last one. -/
def withoutControlsFrom : Nat → Text → Text
  | _, [] => []
  | left + 1, _ :: rest => withoutControlsFrom left rest
  | 0, c :: rest =>
    match controlLength? (c :: rest) with
    | some length => withoutControlsFrom (length - 1) rest
    | none => c :: withoutControlsFrom 0 rest

def withoutControls (text : Text) : Text := withoutControlsFrom 0 text

end SessionReplay.Text
