import SessionReplay.Recording.Action
import SessionReplay.Schema.Record

/-!
# Reading steps

Signals, operations and steps from data. The signals of an action are read before its own fields.
-/

namespace SessionReplay

def textField (value : Value) : Checked Text := .ofExcept (checkText value)

def nullableField (value : Value) : Checked (Option Text) := .ofExcept (checkNullableText value)

def boolField (value : Value) : Checked Bool := .ofExcept (checkBool value)

def countField (bound : Nat) (value : Value) : Checked { n : Nat // bound ≤ n } :=
  .ofExcept (checkAtLeast bound value)

def signalKinds : List (Text × (Entries → Checked Signal)) :=
  [("navigation", fun entries => entries.closed ["name", "url", "isAsync"]
      (Signal.navigation <$> entries.required "url" textField
        <*> entries.optional "isAsync" false boolField)),
    ("popup", fun entries => entries.closed ["name", "popupAlias"]
      (Signal.popup <$> entries.required "popupAlias" textField)),
    ("download", fun entries => entries.closed ["name", "downloadAlias"]
      (Signal.download <$> entries.optional "downloadAlias" [] textField)),
    ("dialog", fun entries => entries.closed ["name", "dialogAlias"]
      (Signal.dialog <$> entries.optional "dialogAlias" [] textField))]

def checkSignal : Value → Checked Signal := checkTagged signalKinds

def repeatedSlotMessage (slot : Slot) : Text := "シグナル '" ++ slot.name ++ "' が重複しています"

def distinctSignals (signals : List Signal) : Checked { signals // Signal.Distinct signals } :=
  match h : Signal.repeatedSlot? [] signals with
  | none => .accepted ⟨signals, ((Signal.repeatedSlot?_eq_none_iff [] signals).mp h).1⟩
  | some slot => .fail (.rule (repeatedSlotMessage slot))

def checkSignals (value : Value) : Checked { signals // Signal.Distinct signals } :=
  (checkList checkSignal value).andThen distinctSignals

def Click.ofFields (selector : Text) (button : Button) (modifiers : { n : Nat // 0 ≤ n })
    (count : { n : Nat // 1 ≤ n }) : Click :=
  ⟨selector, button, modifiers, count, count.2⟩

/-- The kinds of operations, each with its fields and how they are read. -/
def operationKinds : List (Text × List Text × (Entries → Checked Operation)) :=
  [("openPage", ["url"], fun entries =>
      Operation.openPage <$> entries.optional "url" none nullableField),
    ("closePage", [], fun _ => pure Operation.closePage),
    ("click", ["selector", "button", "modifiers", "clickCount"], fun entries =>
      Operation.click <$> (Click.ofFields <$> entries.required "selector" textField
        <*> entries.optional "button" .left
          (fun value => .ofExcept (checkOneOf (Button.all.map fun b => (b.name, b)) value))
        <*> entries.optional "modifiers" ⟨0, Nat.le_refl 0⟩ (countField 0)
        <*> entries.optional "clickCount" ⟨1, Nat.le_refl 1⟩ (countField 1))),
    ("check", ["selector"], fun entries =>
      Operation.check <$> entries.required "selector" textField),
    ("uncheck", ["selector"], fun entries =>
      Operation.uncheck <$> entries.required "selector" textField),
    ("fill", ["selector", "text"], fun entries =>
      Operation.fill <$> entries.required "selector" textField
        <*> entries.required "text" textField),
    ("setInputFiles", ["selector", "files"], fun entries =>
      Operation.setInputFiles <$> entries.required "selector" textField
        <*> entries.optional "files" [] checkTexts),
    ("press", ["selector", "key", "modifiers"], fun entries =>
      (fun selector key modifiers => Operation.press selector key modifiers.1)
        <$> entries.required "selector" textField <*> entries.required "key" textField
        <*> entries.optional "modifiers" ⟨0, Nat.le_refl 0⟩ (countField 0)),
    ("navigate", ["url"], fun entries =>
      Operation.navigate <$> entries.required "url" textField),
    ("select", ["selector", "options"], fun entries =>
      Operation.select <$> entries.required "selector" textField
        <*> entries.optional "options" [] checkTexts)]

/-- The fields of an action: its signals, then those of its operation. -/
def readAction (fields : List Text) (read : Entries → Checked Operation) (entries : Entries) :
    Checked Action :=
  entries.closed ("signals" :: tagField :: fields)
    ((fun signals operation => Action.mk signals.1 operation signals.2)
      <$> entries.optional "signals" ⟨[], by decide⟩ checkSignals <*> read entries)

def checkAction : Value → Checked Action :=
  checkTagged (operationKinds.map fun (kind, fields, read) => (kind, readAction fields read))

/-- The message about a frame that is not the main one and has no address. -/
def unaddressedFrameMessage : Text := "サブフレームへの操作には frameName または frameUrl が必要です"

def addressedStep (page : Text) (isMainFrame : Bool) (frameName frameUrl : Option Text)
    (action : Action) : Checked Step :=
  if h : (isMainFrame || isGiven frameName || isGiven frameUrl) = true then
    .accepted ⟨page, isMainFrame, frameName, frameUrl, action, h⟩
  else .fail (.rule unaddressedFrameMessage)

/-- A step that is taken once its fields are read. -/
abbrev PendingStep := Unit → Checked Step

def readStep (entries : Entries) : Checked Step :=
  let fields : Checked PendingStep :=
    (fun page isMainFrame frameName frameUrl action _ =>
        addressedStep page isMainFrame frameName frameUrl action)
      <$> entries.required "pageAlias" textField
      <*> entries.optional "isMainFrame" true boolField
      <*> entries.optional "frameName" none nullableField
      <*> entries.optional "frameUrl" none nullableField
      <*> entries.required "action" checkAction
  (entries.closed ["pageAlias", "isMainFrame", "frameName", "frameUrl", "action"] fields).andThen
    fun step => step ()

def checkStep : Value → Checked Step := checkModel "ActionInContext" readStep

end SessionReplay
