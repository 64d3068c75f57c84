import SessionReplay.Program.Call
import SessionReplay.Program.Layout

/-!
# Blocks

The part of the program that repeats one step: a comment with the title, the handler of a dialog,
and the call, wrapped from the inside out in waiting for a navigation, a download and a popup.
-/

namespace SessionReplay.Program

def bodyOffset : Nat := 8

def escapeLineEnd (c : Char) : Text :=
  if c = '\r' then "\\r"
  else if c = '\n' then "\\n"
  else if c = '\u2028' then "\\u2028"
  else if c = '\u2029' then "\\u2029"
  else [c]

def singleLine (text : Text) : Text := text.flatMap escapeLineEnd

def titleComment (operation : Operation) : Text := "// " ++ singleLine operation.title

/-- Addresses that a new page shows of its own accord. -/
def blankUrls : List Text := ["about:blank", "chrome://newtab/"]

def openingLines (page : Text) (url : Option Text) : List Text :=
  let opening : Text := "var " ++ page ++ " = await context.NewPageAsync();"
  match url with
  | some url =>
    if url = [] ∨ url ∈ blankUrls then [opening]
    else [opening, "await " ++ page ++ ".GotoAsync(" ++ url.quoted ++ ");"]
  | none => [opening]

/-- The page or the frame that an operation is called on. -/
def subject (step : Step) : Text :=
  if step.isMainFrame then step.page
  else
    match step.frameName with
    | some (c :: name) => step.page ++ ".Frame(" ++ Text.quoted (c :: name) ++ ")"
    | _ => step.page ++ ".FrameByUrl(" ++ (step.frameUrl.getD []).quoted ++ ")"

def handlerName (page suffix : Text) : Text := page ++ "_Dialog" ++ suffix ++ "_EventHandler"

/-- The handler of a dialog: it reports the message, dismisses the dialog and takes itself off. -/
def handlerLines (page suffix : Text) : List Text :=
  let handler := handlerName page suffix
  ["void " ++ handler ++ "(object sender, IDialog dialog)",
    "\x7b",
    "Console.WriteLine($\"Dialog message: \x7bdialog.Message\x7d\");",
    "dialog.DismissAsync();",
    page ++ ".Dialog -= " ++ handler ++ ";",
    "\x7d",
    page ++ ".Dialog += " ++ handler ++ ";"]

def navigationWait (step : Step) (url : Text) (inner : List Text) : List Text :=
  let owner : Text := if step.isMainFrame then "Page" else "Frame"
  let opening : List Text :=
    ["await " ++ step.page ++ ".RunAndWaitForNavigationAsync(async () =>", "\x7b"]
  let closing : List Text :=
    ["\x7d/*, new " ++ owner ++ "WaitForNavigationOptions", "\x7b",
      "UrlString = " ++ url.quoted, "\x7d*/);"]
  opening ++ inner ++ closing

def boundWait (page variableName method : Text) (inner : List Text) : List Text :=
  let opening : List Text :=
    ["var " ++ variableName ++ " = await " ++ page ++ "." ++ method ++ "(async () =>", "\x7b"]
  opening ++ inner ++ ["\x7d);".toList]

def wrap (wait : Text → List Text → List Text) : Option Text → List Text → List Text
  | some name, inner => wait name inner
  | none, inner => inner

def statementLines (step : Step) (callText : Text) : List Text :=
  let signals := step.action.signalMap
  let statement : Text := "await " ++ subject step ++ "." ++ callText ++ ";"
  let navigated := wrap (navigationWait step) signals.waitForNavigation [statement]
  let downloaded := wrap
    (fun suffix => boundWait step.page ("download" ++ suffix) "RunAndWaitForDownloadAsync")
    signals.download navigated
  wrap (fun page => boundWait step.page page "RunAndWaitForPopupAsync") signals.popup downloaded

def assertionLines (step : Step) : List Text :=
  match step.action.signalMap.assertNavigation with
  | some url => ["// Assert.Equal(" ++ url.quoted ++ ", " ++ step.page ++ ".Url);"]
  | none => []

/-- The handler of the dialog that a step sets off; it is one statement. -/
def dialogLines (step : Step) : List Text :=
  match step.action.signalMap.dialog with
  | some suffix => [Text.unlines (handlerLines step.page suffix)]
  | none => []

def blockStatements (step : Step) : Except ProgramFault (List Text) :=
  match step.action.operation with
  | .openPage url => .ok (openingLines step.page url)
  | operation => do
    let callText ← call step.isMainFrame operation
    .ok (dialogLines step ++ statementLines step callText ++ assertionLines step)

def blockLines (step : Step) : Except ProgramFault Lines := do
  let statements ← blockStatements step
  .ok ((titleComment step.action.operation :: statements).foldl Lines.add (Lines.newLine []))

def block (step : Step) : Except ProgramFault Text := do
  .ok ((← blockLines step).render bodyOffset)

end SessionReplay.Program
