import SessionReplay.Command.Generate

/-!
# Running commands
-/

namespace SessionReplay

variable {ε : Type}

def Finding.report (finding : Finding) : Text :=
  let place : Text :=
    match finding.line with
    | some line => " (行 " ++ Text.ofNat line ++ ")"
    | none => []
  "✗ " ++ finding.location ++ place ++ ": " ++ finding.message

namespace Command

def checkMark (recording : Path) : Text := "✓ " ++ recording.text ++ ": スキーマ検証 OK\n"

def runValidate (host : Host ε) (recording : Path) (directory : Directory) : Outcome ε :=
  match (directory.recordingFile recording).validateWith host.reader with
  | .ok [] =>
    match host.print (checkMark recording) with
    | .ok out => { out, directory }
    | .error fault => { exitCode := 1, escaped := some (.printing fault), directory }
  | .ok findings =>
    { exitCode := 1, err := findings.map fun finding => host.say finding.report, directory }
  | .error fault => { exitCode := 1, escaped := some (.load fault), directory }

/-- Prints lines, up to one that is refused. -/
def printLines (host : Host ε) (directory : Directory) : List Text → Outcome ε
  | [] => { directory }
  | line :: rest =>
    match host.print (line ++ ['\n']) with
    | .ok out =>
      let outcome := printLines host directory rest
      { outcome with out := out ++ outcome.out }
    | .error fault => { exitCode := 1, escaped := some (.printing fault), directory }

def run (host : Host ε) (environment : Environment) (directory : Directory) : Command → Outcome ε
  | .generate request => request.run host environment directory
  | .validate recording => runValidate host recording directory
  | .devices => printLines host directory Device.names

def paths : Command → List Path
  | .generate request => request.recording :: request.output.toList
  | .validate recording => [recording]
  | .devices => []

end Command
end SessionReplay
