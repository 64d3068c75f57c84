import SessionReplay.Schema.Describe
import SessionReplay.Schema.Session
import SessionReplay.Text.LowerCase

/-!
# Settings

Where the options of a program come from. For each of them the command line goes before the
recording, the recording before the environment, and the environment before the defaults. A
recording that sets an option to nothing has set it; an environment variable that is empty has not.
-/

namespace SessionReplay

structure Settings where
  browser : Text := "chromium"
  device : Option Text := none
  storage : Option Text := none
  target : Text := "csharp"
deriving DecidableEq

abbrev Environment := List (Text × Text)

structure Choices where
  browser : Option Text := none
  device : Option Text := none
  storage : Option Text := none

/-- The options that are chosen; one that is chosen to be empty is chosen. -/
def Choices.fields (choices : Choices) : Options :=
  givenFields
    [("browserName", choices.browser.map .text), ("deviceName", choices.device.map .text),
      ("saveStorage", choices.storage.map .text)]

namespace Settings

/-- The browser that a variable names, in any case. -/
def browserNamed? (name : Text) : Option Browser := Browser.ofName? name.lower

def given? (environment : Environment) (name : Text) : Option Text :=
  (environment.lookup name).filter (!·.isEmpty)

def browserVariable : Text := "RECGEN_BROWSER"

def deviceVariable : Text := "RECGEN_DEVICE"

def storageVariable : Text := "RECGEN_SAVE_STORAGE"

def targetVariable : Text := "RECGEN_TARGET"

/-- The variables of the environment that settle something. -/
def variableNames : List Text := [browserVariable, deviceVariable, storageVariable, targetVariable]

def ofEnvironment (environment : Environment) : Settings where
  browser := (((environment.lookup browserVariable).bind browserNamed?).getD .chromium).name
  device := given? environment deviceVariable
  storage := given? environment storageVariable
  target := (given? environment targetVariable).getD "csharp"

/-- What is to be said about an environment: the browser it names is none. -/
def warnings (environment : Environment) : List Text :=
  match environment.lookup browserVariable with
  | some name =>
    if (browserNamed? name).isSome then [] else [browserVariable ++ " の値が不正です: " ++ name]
  | none => []

def fields (settings : Settings) : Options :=
  [("browserName", .text settings.browser), ("deviceName", nullable settings.device),
    ("saveStorage", nullable settings.storage)]

/-- All sources as data, each laid over those that it goes before. -/
def mergedFields (settings : Settings) (recorded : OptionSettings) (choices : Choices) : Options :=
  Options.update (Options.update settings.fields recorded.fields) choices.fields

/-- The options of the program, from all sources together: they are read in the way those of a
recording are. -/
def merge (settings : Settings) (recorded : OptionSettings) (choices : Choices) :
    Checked SessionOptions :=
  (checkSettings (settings.mergedFields recorded choices).toValue).map OptionSettings.resolve

end Settings
end SessionReplay
