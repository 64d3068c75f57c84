import SessionReplay.Recording.Basic
import SessionReplay.Schema.Step

/-!
# Reading options and recordings

Options and whole recordings from data. A recording is read completely before its names are
checked against each other.
-/

namespace SessionReplay

def optionsField (value : Value) : Checked Options := checkOptions value

def browserField (value : Value) : Checked Browser :=
  .ofExcept (checkOneOf (Browser.all.map fun browser => (browser.name, browser)) value)

def Entries.setting {α : Type} (entries : Entries) (name : Text) (check : Value → Checked α) :
    Checked (Option α) :=
  entries.optional name none fun value => some <$> check value

def settingFields : List Text :=
  ["browserName", "launchOptions", "contextOptions", "deviceName", "saveStorage"]

def readSettings (entries : Entries) : Checked OptionSettings :=
  entries.closed settingFields
    (OptionSettings.mk <$> entries.setting "browserName" browserField
      <*> entries.setting "launchOptions" optionsField
      <*> entries.setting "contextOptions" optionsField
      <*> entries.setting "deviceName" nullableField
      <*> entries.setting "saveStorage" nullableField)

def checkSettings : Value → Checked OptionSettings := checkModel "GeneratorOptions" readSettings

def consistentRecording (options : OptionSettings) (steps : List Step) : Checked Recording :=
  match h : AliasConflict.first? steps with
  | none => .accepted ⟨options, steps, h⟩
  | some conflict => .fail (.rule conflict.message)

def readRecording (entries : Entries) : Checked Recording :=
  (entries.closed ["options", "actions"]
    (Prod.mk <$> entries.optional "options" {} checkSettings
      <*> entries.optional "actions" [] (checkList checkStep))).andThen
    fun parts => consistentRecording parts.1 parts.2

def checkRecording : Value → Checked Recording := checkModel "Recording" readRecording

end SessionReplay
