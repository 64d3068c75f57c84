import SessionReplay.Program.Fault
import SessionReplay.Recording.Action

/-!
# Calls

The call that repeats an operation on a page or a frame: a method and its arguments. What has its
default value is not written.
-/

namespace SessionReplay.Program

def methodCall (method : Text) (arguments : List Text) : Text :=
  method ++ "Async(" ++ Text.join ", " arguments ++ ")"

/-- The method that clicks: two clicks are a double click. -/
def clickMethod (clicks : Click) : Text := if clicks.count = 2 then "DblClick" else "Click"

def clickOptions (clicks : Click) : Options :=
  let button : Options :=
    if clicks.button = .left then [] else [("button", .text clicks.button.name)]
  let held := Modifier.heldNames clicks.modifiers
  let modifiers : Options :=
    if held.isEmpty then [] else [("modifiers", .list (held.map Value.text))]
  let count : Options :=
    if 2 < clicks.count then [("clickCount", .int clicks.count)] else []
  button ++ modifiers ++ count

def optionsClass (onPage : Bool) (method : Text) : Text :=
  if onPage then "Page" ++ method ++ "Options" else "Frame" ++ method ++ "Options"

def clickCall (onPage : Bool) (clicks : Click) : Except ProgramFault Text :=
  let method := clickMethod clicks
  match clickOptions clicks with
  | [] => .ok (methodCall method [clicks.selector.quoted])
  | options => do
    let settings ← expression (optionsClass onPage method) options.toValue
    .ok (methodCall method [clicks.selector.quoted, settings])

def textArray (texts : List Text) : Text := arrayLiteral (texts.map Text.quoted)

def call (onPage : Bool) : Operation → Except ProgramFault Text
  | .openPage _ => .error .openingIsNoCall
  | .closePage => .ok (methodCall "Close" [])
  | .click clicks => clickCall onPage clicks
  | .check selector => .ok (methodCall "Check" [selector.quoted])
  | .uncheck selector => .ok (methodCall "Uncheck" [selector.quoted])
  | .fill selector text => .ok (methodCall "Fill" [selector.quoted, text.quoted])
  | .setInputFiles selector files =>
    .ok (methodCall "SetInputFiles" [selector.quoted, textArray files])
  | .press selector key modifiers =>
    .ok (methodCall "Press" [selector.quoted, (Modifier.shortcut modifiers key).quoted])
  | .navigate url => .ok (methodCall "Goto" [url.quoted])
  | .select selector options =>
    .ok (methodCall "SelectOption" [selector.quoted, textArray options])

end SessionReplay.Program
