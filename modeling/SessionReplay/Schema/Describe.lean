import SessionReplay.Recording.Basic

/-!
# Descriptions

The data that describes a signal, an action, a step, options or a recording: every field, the
defaults included, in the order in which the fields are read.
-/

namespace SessionReplay

def record (fields : List (Text × Value)) : Value :=
  .dict (fields.map fun field => (.text field.1, field.2))

def nullable : Option Text → Value
  | some text => .text text
  | none => .null

def textList (texts : List Text) : Value := .list (texts.map Value.text)

namespace Signal

def describe : Signal → Value
  | .navigation url isAsync =>
    record [("name", .text "navigation"), ("url", .text url), ("isAsync", .bool isAsync)]
  | .popup page => record [("name", .text "popup"), ("popupAlias", .text page)]
  | .download suffix => record [("name", .text "download"), ("downloadAlias", .text suffix)]
  | .dialog suffix => record [("name", .text "dialog"), ("dialogAlias", .text suffix)]

end Signal

namespace Operation

def fields : Operation → List (Text × Value)
  | .openPage url => [("url", nullable url)]
  | .closePage => []
  | .click clicks =>
    [("selector", .text clicks.selector), ("button", .text clicks.button.name),
      ("modifiers", .int clicks.modifiers), ("clickCount", .int clicks.count)]
  | .check selector | .uncheck selector => [("selector", .text selector)]
  | .fill selector text => [("selector", .text selector), ("text", .text text)]
  | .setInputFiles selector files => [("selector", .text selector), ("files", textList files)]
  | .press selector key modifiers =>
    [("selector", .text selector), ("key", .text key), ("modifiers", .int modifiers)]
  | .navigate url => [("url", .text url)]
  | .select selector options => [("selector", .text selector), ("options", textList options)]

end Operation

def Action.describe (action : Action) : Value :=
  record (("signals", .list (action.signals.map Signal.describe)) ::
    ("name", .text action.operation.kind) :: action.operation.fields)

def Step.describe (step : Step) : Value :=
  record [("pageAlias", .text step.page), ("isMainFrame", .bool step.isMainFrame),
    ("frameName", nullable step.frameName), ("frameUrl", nullable step.frameUrl),
    ("action", step.action.describe)]

def givenFields (fields : List (Text × Option Value)) : Options :=
  fields.filterMap fun field => field.2.map (field.1, ·)

/-- What settings set; what they leave out has no field. -/
def OptionSettings.fields (settings : OptionSettings) : Options :=
  givenFields
    [("browserName", settings.browser.map fun browser => .text browser.name),
      ("launchOptions", settings.launch.map Options.toValue),
      ("contextOptions", settings.context.map Options.toValue),
      ("deviceName", settings.device.map nullable), ("saveStorage", settings.storage.map nullable)]

def SessionOptions.describe (options : SessionOptions) : Value :=
  record [("browserName", .text options.browser.name), ("launchOptions", options.launch.toValue),
    ("contextOptions", options.context.toValue), ("deviceName", nullable options.device),
    ("saveStorage", nullable options.storage)]

def Recording.describe (recording : Recording) : Value :=
  record [("options", recording.options.resolve.describe),
    ("actions", .list (recording.steps.map Step.describe))]

end SessionReplay
