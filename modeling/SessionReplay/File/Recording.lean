import SessionReplay.File.Entry
import SessionReplay.Schema.Session
import SessionReplay.Yaml.Position

/-!
# Recording files

A recording is kept in a file as YAML; a JSON file is YAML too. Loading yields the recording or the
reason why there is none; validating lists what is wrong with the file, with the place of it. How
data is read is left open: any way will do that yields data, or finds the rules of YAML broken, or
fails otherwise.
-/

namespace SessionReplay

/-- Why bytes are not read as data. -/
inductive ReadFault (ε : Type) where
  /-- The rules of YAML are broken at a place. -/
  | syntaxAt (mark : Yaml.Mark)
  | syntaxNowhere
  | other (fault : ε)

structure DataReader (ε : Type) where
  read : List UInt8 → Except (ReadFault ε) Value
  /-- The message of a fault that is none of syntax. -/
  tell : ε → Text

inductive LoadFault (ε : Type) where
  | missing (path : Path)
  /-- The system does not let the file be looked for or opened. -/
  | refused (fault : PathFault)
  | unreadable (fault : ReadFault ε)
  | empty
  /-- The data is no recording. -/
  | invalid (faults : List Fault)

structure Finding where
  message : Text
  location : Text
  line : Option Nat
deriving DecidableEq

variable {ε : Type}

namespace LoadFault

def missingMessage (path : Path) : Text := "記録ファイルが見つかりません: " ++ path.text

def emptyMessage : Text := "記録ファイルが空です"

def syntaxMessage : Text := "構文エラー"

/-- Line and column, both counted from one. -/
def placeText (mark : Yaml.Mark) : Text :=
  " (行 " ++ Text.ofNat (mark.line + 1) ++ ", 列 " ++ Text.ofNat (mark.column + 1) ++ ")"

/-- The message; what is said about each fault of the data is not part of it. -/
def message (tell : ε → Text) : LoadFault ε → Text
  | .missing path => missingMessage path
  | .refused fault => fault.message
  | .unreadable (.syntaxAt mark) => syntaxMessage ++ placeText mark
  | .unreadable .syntaxNowhere => syntaxMessage
  | .unreadable (.other fault) => tell fault
  | .empty => emptyMessage
  | .invalid _ => "スキーマ検証エラー"

end LoadFault

namespace Finding

def ofFile (message : Text) : Finding := ⟨message, "file", none⟩

def ofSyntax (line : Option Nat) : Finding := ⟨LoadFault.syntaxMessage, "yaml", line⟩

def ofFault (fault : Fault) : Finding :=
  let place := Text.join " -> " (fault.place.map Locus.text)
  ⟨fault.message, if fault.place.isEmpty then "recording".toList else place, none⟩

end Finding

structure RecordingFile where
  path : Path
  /-- What stands at the path, if anything does. -/
  entry : Except PathFault (Option FileEntry)

namespace RecordingFile

/-- The recording in the file. -/
def loadWith (reader : DataReader ε) (file : RecordingFile) : Except (LoadFault ε) Recording :=
  match file.entry with
  | .error fault => .error (.refused fault)
  | .ok none => .error (.missing file.path)
  | .ok (some entry) =>
    match entry.opened with
    | .error problem => .error (.refused ⟨problem, file.path⟩)
    | .ok bytes =>
      match reader.read bytes with
      | .error fault => .error (.unreadable fault)
      | .ok .null => .error .empty
      | .ok value =>
        match checkRecording value with
        | .accepted recording => .ok recording
        | .rejected faults => .error (.invalid faults)

/-- What is wrong with the file. What the system refuses, and faults of reading that are none of
syntax, are no findings: they end the validation. -/
def validateWith (reader : DataReader ε) (file : RecordingFile) :
    Except (LoadFault ε) (List Finding) :=
  match file.entry with
  | .error fault => .error (.refused fault)
  | .ok none => .ok [.ofFile (LoadFault.missingMessage file.path)]
  | .ok (some entry) =>
    match entry.opened with
    | .error problem => .error (.refused ⟨problem, file.path⟩)
    | .ok bytes =>
      match reader.read bytes with
      | .error (.syntaxAt mark) => .ok [.ofSyntax (some (mark.line + 1))]
      | .error .syntaxNowhere => .ok [.ofSyntax none]
      | .error (.other fault) => .error (.unreadable (.other fault))
      | .ok .null => .ok [.ofFile LoadFault.emptyMessage]
      | .ok value =>
        match checkRecording value with
        | .accepted _ => .ok []
        | .rejected faults => .ok (faults.map Finding.ofFault)

end RecordingFile
end SessionReplay
