import SessionReplay.Device.Difference
import SessionReplay.Program.Fault
import SessionReplay.Program.Layout
import SessionReplay.Schema.Record

/-!
# Beginning and end of the program

The beginning starts the browser and makes the context; it leaves the braces of the class and of
its method open. The end may save the storage of the context, and closes them.
-/

namespace SessionReplay.Program

/-- The expression for the settings of the context: all of them, or a device and those that differ
from it. -/
def contextExpression (settings : Entries) (device : Option Text) : Except ProgramFault Text :=
  match device with
  | none | some [] =>
    if settings.isEmpty then .ok [] else expression "BrowserNewContextOptions" (.dict settings)
  | some name =>
    match Device.find? name with
    | none => .error (.unknownDevice name)
    | some preset =>
      let known : Text := "playwright.Devices[" ++ name.quoted ++ "]"
      let rest := Value.differing preset.settings.toEntries settings
      if rest.isEmpty then .ok known
      else expression ("BrowserNewContextOptions(" ++ known ++ ")") (.dict rest)

def launchExpression (settings : Options) : Except ProgramFault Text :=
  if settings.isEmpty then .ok [] else expression "BrowserTypeLaunchOptions" settings.toValue

def headerText (browser : Browser) (launch context : Text) : Text :=
  Text.unlines
    ["using Microsoft.Playwright;",
      "using System;",
      "using System.Threading.Tasks;",
      "",
      "class Program",
      "\x7b",
      "public static async Task Main()",
      "\x7b",
      "using var playwright = await Playwright.CreateAsync();",
      "await using var browser = await playwright." ++ Text.capitalize browser.name ++
        ".LaunchAsync(" ++ launch ++ ");",
      "var context = await browser.NewContextAsync(" ++ context ++ ");"]

def header (options : SessionOptions) : Except ProgramFault Text := do
  let launch ← launchExpression options.launch
  let context ← contextExpression options.context.toEntries options.device
  .ok ((Lines.add [] (headerText options.browser launch context)).render 0)

def storageText (path : Text) : Text :=
  Text.unlines
    ["await context.StorageStateAsync(new BrowserContextStorageStateOptions",
      "\x7b",
      "Path = " ++ path.quoted,
      "\x7d);"]

def closingBraces : Text := "    \x7d\n\x7d\n"

def footer : Option Text → Text
  | none | some [] => closingBraces
  | some path => "\n" ++ (Lines.add [] (storageText path)).render 8 ++ "\n" ++ closingBraces

end SessionReplay.Program
