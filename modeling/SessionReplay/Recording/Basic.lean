import SessionReplay.Recording.Action
import SessionReplay.Recording.Options

/-!
# Recordings

A recording is a list of steps with options. The names it binds have to be distinct over the whole
recording: popup pages among each other and from opened pages, downloads, and the dialog handlers
of each page. `AliasConflict.first?` finds the first name, in recording order, that is not.
-/

namespace SessionReplay

/-- A name that a signal binds, with what it names. -/
inductive BoundName where
  | popup (page : Text)
  | download (suffix : Text)
  /-- The page and the suffix of a dialog handler, a colon between them. -/
  | dialog (handler : Text)
deriving DecidableEq

namespace BoundName

def kind : BoundName → Text
  | .popup _ => "popup"
  | .download _ => "download"
  | .dialog _ => "dialog"

def name : BoundName → Text
  | .popup page => page
  | .download suffix => suffix
  | .dialog handler => handler

/-- The name that a signal on a page binds, if it binds one. -/
def ofSignal? (page : Text) : Signal → Option BoundName
  | .navigation _ _ => none
  | .popup opened => some (.popup opened)
  | .download suffix => some (.download suffix)
  | .dialog suffix => some (.dialog (page ++ ":" ++ suffix))

def ofSteps (steps : List Step) : List BoundName :=
  steps.flatMap fun step => step.action.signals.filterMap (ofSignal? step.page)

end BoundName

def openedPages (steps : List Step) : List Text :=
  (steps.filter (·.action.opensPage)).map Step.page

inductive AliasConflict where
  /-- A popup is bound to the variable of an opened page. -/
  | popupIsPage (page : Text)
  /-- The same name is bound again. -/
  | repeated (name : BoundName)
deriving DecidableEq

namespace AliasConflict

def message : AliasConflict → Text
  | .popupIsPage page => "popup の変数名 '" ++ page ++ "' がページ変数と衝突しています"
  | .repeated name => name.kind ++ " の変数名 '" ++ name.name ++ "' が重複しています"

def clashesWithPage (pages : List Text) : BoundName → Bool
  | .popup page => pages.contains page
  | _ => false

/-- The first conflict among names, after those in `bound`. -/
def among? (pages : List Text) (bound : List BoundName) : List BoundName → Option AliasConflict
  | [] => none
  | name :: rest =>
    if clashesWithPage pages name then some (.popupIsPage name.name)
    else if name ∈ bound then some (.repeated name)
    else among? pages (name :: bound) rest

def first? (steps : List Step) : Option AliasConflict :=
  among? (openedPages steps) [] (BoundName.ofSteps steps)

end AliasConflict

structure Recording where
  options : OptionSettings
  steps : List Step
  consistent : AliasConflict.first? steps = none

end SessionReplay
