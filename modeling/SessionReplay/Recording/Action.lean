import SessionReplay.Recording.Modifier
import SessionReplay.Recording.Signal

/-!
# Actions

A recorded step is an operation of the user, the signals it set off, and the page or frame it was
done in. What validation guarantees is part of the types: a click clicks at least once, signals
take distinct slots, and a frame that is not the main one has an address.
-/

namespace SessionReplay

inductive Button where
  | left
  | middle
  | right
deriving DecidableEq, Repr

namespace Button

def all : List Button := [.left, .middle, .right]

def name : Button → Text
  | .left => "left"
  | .middle => "middle"
  | .right => "right"

end Button

structure Click where
  selector : Text
  button : Button
  /-- The mask of the modifiers held. -/
  modifiers : Nat
  count : Nat
  count_pos : 0 < count
deriving DecidableEq

inductive Operation where
  /-- A new page, with the address that it first showed. -/
  | openPage (url : Option Text)
  | closePage
  | click (clicks : Click)
  | check (selector : Text)
  | uncheck (selector : Text)
  | fill (selector text : Text)
  /-- Chooses files for an input; no files clear the choice. -/
  | setInputFiles (selector : Text) (files : List Text)
  | press (selector key : Text) (modifiers : Nat)
  | navigate (url : Text)
  | select (selector : Text) (options : List Text)
deriving DecidableEq

namespace Operation

def kind : Operation → Text
  | .openPage _ => "openPage"
  | .closePage => "closePage"
  | .click _ => "click"
  | .check _ => "check"
  | .uncheck _ => "uncheck"
  | .fill _ _ => "fill"
  | .setInputFiles _ _ => "setInputFiles"
  | .press _ _ _ => "press"
  | .navigate _ => "navigate"
  | .select _ _ => "select"

def clickTitle (clicks : Click) : Text :=
  match clicks.count with
  | 1 => "Click " ++ clicks.selector
  | 2 => "Double click " ++ clicks.selector
  | 3 => "Triple click " ++ clicks.selector
  | n => Text.ofNat n ++ "× click"

/-- A short description for the reader of the program. -/
def title : Operation → Text
  | .openPage _ => "Open new page"
  | .closePage => "Close page"
  | .click clicks => clickTitle clicks
  | .check selector => "Check " ++ selector
  | .uncheck selector => "Uncheck " ++ selector
  | .fill selector _ => "Fill " ++ selector
  | .setInputFiles _ [] => "Clear selected files"
  | .setInputFiles _ files => "Upload " ++ Text.join ", " files
  | .press _ key modifiers => "Press " ++ Modifier.shortcut modifiers key
  | .navigate url => "Go to " ++ url
  | .select _ options => "Select " ++ Text.join ", " options

end Operation

/-- An operation with the signals it set off, at most one in each slot. -/
structure Action where
  signals : List Signal
  operation : Operation
  distinct : Signal.Distinct signals
deriving DecidableEq

namespace Action

def signalMap (action : Action) : SignalMap := SignalMap.ofList action.signals

def opensPage (action : Action) : Bool :=
  match action.operation with
  | .openPage _ => true
  | _ => false

end Action

/-- A text that is there and not empty. -/
def isGiven : Option Text → Bool
  | some text => !text.isEmpty
  | none => false

/-- An action in the page and the frame it was done in. -/
structure Step where
  page : Text
  isMainFrame : Bool
  /-- The name of the frame; it goes before the address. -/
  frameName : Option Text
  frameUrl : Option Text
  action : Action
  addressed : (isMainFrame || isGiven frameName || isGiven frameUrl) = true
deriving DecidableEq

end SessionReplay
