import SessionReplay.Value.Basic

/-!
# Options of a session

The browser, how it is launched, the context the pages live in, the device it emulates, and where
its storage is saved. A recording sets some of these; `OptionSettings` keeps which ones, because a
setting that is left out gives way to the environment and one that is made does not.
-/

namespace SessionReplay

inductive Browser where
  | chromium
  | firefox
  | webkit
deriving DecidableEq, Repr

namespace Browser

def all : List Browser := [.chromium, .firefox, .webkit]

def name : Browser → Text
  | .chromium => "chromium"
  | .firefox => "firefox"
  | .webkit => "webkit"

def ofName? (name : Text) : Option Browser := all.find? (·.name == name)

theorem ofName?_name (browser : Browser) : ofName? browser.name = some browser := by
  cases browser <;> decide

end Browser

structure SessionOptions where
  browser : Browser := .chromium
  /-- Settings for launching the browser, in the order in which they are written. -/
  launch : Options := []
  /-- Settings of the context, in the order in which they are written. -/
  context : Options := []
  /-- The device that is emulated; an empty name is no device. -/
  device : Option Text := none
  /-- The file that storage is saved to; an empty name is no file. -/
  storage : Option Text := none

/-- The options that a recording sets; each of them may be left out. -/
structure OptionSettings where
  browser : Option Browser := none
  launch : Option Options := none
  context : Option Options := none
  device : Option (Option Text) := none
  storage : Option (Option Text) := none

def OptionSettings.over (settings : OptionSettings) (options : SessionOptions) : SessionOptions where
  browser := settings.browser.getD options.browser
  launch := settings.launch.getD options.launch
  context := settings.context.getD options.context
  device := settings.device.getD options.device
  storage := settings.storage.getD options.storage

def OptionSettings.resolve (settings : OptionSettings) : SessionOptions := settings.over {}

def Options.toEntries (options : Options) : List (Value × Value) :=
  options.map fun entry => (.text entry.1, entry.2)

def Options.toValue (options : Options) : Value := .dict options.toEntries

end SessionReplay
