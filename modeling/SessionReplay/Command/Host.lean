import SessionReplay.File.Recording
import SessionReplay.Text.Control

/-!
# Hosts

What a command relies on besides its arguments, the environment and the files: a way to read data,
and two outputs. An output that is no terminal is given text without its control sequences. The
standard output may refuse a text, such as one with characters that it has no code for; then nothing
of this text goes there. The output for messages takes every text.
-/

namespace SessionReplay

structure Host (ε : Type) where
  reader : DataReader ε
  outIsTerminal : Bool
  errIsTerminal : Bool
  /-- Why the standard output does not take a text. -/
  refuses : Text → Option ε

def shownOn (isTerminal : Bool) (text : Text) : Text :=
  if isTerminal then text else text.withoutControls

namespace Host

variable {ε : Type}

/-- What the standard output shows of a text, unless it refuses it. -/
def print (host : Host ε) (text : Text) : Except ε Text :=
  let shown := shownOn host.outIsTerminal text
  match host.refuses shown with
  | some fault => .error fault
  | none => .ok shown

def say (host : Host ε) (text : Text) : Text := shownOn host.errIsTerminal text

end Host
end SessionReplay
