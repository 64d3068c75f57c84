import SessionReplay.Command.Basic
import SessionReplay.Command.Outcome
import SessionReplay.File.Recording
import SessionReplay.Program.Basic

/-!
# Writing the program of a recording

The program is complete before anything is delivered: it is printed as a whole or written to a file
as a whole, or a message tells why there is none.
-/

namespace SessionReplay

variable {ε : Type}

inductive GenerateFault (ε : Type) where
  | load (fault : LoadFault ε)
  | options (faults : List Fault)
  | unknownLanguage (id : Text)
  | program (fault : Program.ProgramFault)
  | printing (fault : ε)
  | output (fault : PathFault)

/-- The message; what is said about each fault of the options is not part of it. -/
def GenerateFault.message (tell : ε → Text) : GenerateFault ε → Text
  | .load fault => fault.message tell
  | .options faults =>
    let noun : Text := if faults.length = 1 then " validation error" else " validation errors"
    Text.ofNat faults.length ++ noun ++ " for GeneratorOptions"
  | .unknownLanguage id => id.shown
  | .program fault => fault.message
  | .printing fault => tell fault
  | .output fault => fault.message

namespace GenerateRequest

/-- The language that is asked for. An empty name asks for none. -/
def language (request : GenerateRequest) (settings : Settings) : Text :=
  (request.target.filter (!·.isEmpty)).getD settings.target

def program (request : GenerateRequest) (reader : DataReader ε) (environment : Environment)
    (file : RecordingFile) : Except (GenerateFault ε) Text := do
  let settings := Settings.ofEnvironment environment
  let recording ← (file.loadWith reader).mapError .load
  match settings.merge recording.options request.choices with
  | .rejected faults => .error (.options faults)
  | .accepted options =>
    let id := request.language settings
    match Language.ofId? id with
    | none => .error (.unknownLanguage id)
    | some _ => (Program.generate options recording.steps).mapError .program

/-- A command that fails: it prints nothing and tells why. -/
def failed (host : Host ε) (directory : Directory) (fault : GenerateFault ε) : Outcome ε :=
  { exitCode := 1, err := [host.say ("エラー: " ++ fault.message host.reader.tell)], directory }

def deliver (request : GenerateRequest) (host : Host ε) (directory : Directory) (program : Text) :
    Outcome ε :=
  match request.output with
  | none =>
    match host.print program with
    | .ok out => { out, directory }
    | .error fault => failed host directory (.printing fault)
  | some path =>
    let changed := directory.write path program.toUtf8
    match changed.fault with
    | none => { err := [host.say ("生成完了: " ++ path.text)], directory := changed.directory }
    | some fault => failed host changed.directory (.output fault)

def run (request : GenerateRequest) (host : Host ε) (environment : Environment)
    (directory : Directory) : Outcome ε :=
  let file := directory.recordingFile request.recording
  let outcome :=
    match request.program host.reader environment file with
    | .ok program => request.deliver host directory program
    | .error fault => failed host directory fault
  { outcome with err := Settings.warnings environment ++ outcome.err }

end GenerateRequest
end SessionReplay
