import SessionReplay.Command.Host
import SessionReplay.File.Directory

/-!
# Outcomes

What a command leaves behind: what it prints, how it ends, and the files.
-/

namespace SessionReplay

/-- A fault that a command does not report. -/
inductive EscapedFault (ε : Type) where
  | load (fault : LoadFault ε)
  | printing (fault : ε)

structure Outcome (ε : Type) where
  exitCode : Nat := 0
  /-- What goes to the standard output. -/
  out : Text := []
  /-- Messages, each on a line of its own. -/
  err : List Text := []
  escaped : Option (EscapedFault ε) := none
  /-- The files after the command. -/
  directory : Directory

def EscapedFault.message {ε : Type} (tell : ε → Text) : EscapedFault ε → Text
  | .load fault => fault.message tell
  | .printing fault => tell fault

def Directory.recordingFile (directory : Directory) (path : Path) : RecordingFile :=
  ⟨path, directory.see path⟩

end SessionReplay
