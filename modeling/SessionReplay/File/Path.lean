import SessionReplay.Text.Basic

/-!
# Paths

A path is a list of names. Empty names and dots say nothing and are left out; two dots stay, because
what they lead to depends on the directory before them. Exactly two slashes at the beginning stay,
too, though they lead to where one does.
-/

namespace SessionReplay

inductive PathStart where
  | workingDirectory
  | root
  | doubledRoot
deriving DecidableEq

namespace PathStart

def ofText (text : Text) : PathStart :=
  match (text.takeWhile (· == '/')).length with
  | 0 => .workingDirectory
  | 2 => .doubledRoot
  | _ => .root

def text : PathStart → Text
  | .workingDirectory => []
  | .root => "/"
  | .doubledRoot => "//"

end PathStart

structure Path where
  start : PathStart
  names : List Text
deriving DecidableEq

namespace Path

def ofText (text : Text) : Path :=
  ⟨.ofText text, (text.splitOn '/').filter fun name => name ≠ [] ∧ name ≠ ['.']⟩

def text (path : Path) : Text :=
  if path.start = .workingDirectory ∧ path.names = [] then "."
  else path.start.text ++ Text.join "/" path.names

def parent (path : Path) : Path := { path with names := path.names.dropLast }

end Path
end SessionReplay
