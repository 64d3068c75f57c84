import Mathlib.Logic.ExistsUnique
import SessionReplay.File.Recording
import SessionReplay.Proofs.Number.Reading
import SessionReplay.Proofs.Schema.Rejection
import SessionReplay.Proofs.Text.Delimited

/-!
# What loading and validating say of a file

A file holds a recording and has no findings; or it holds none, for a reason that the findings
report; or it breaks both off with the same fault. Which of these it is does not depend on whether
the file is loaded or validated.
-/

namespace SessionReplay

/-! ### Positions -/

def positionText (line column : Nat) : Text :=
  " (行 " ++ Text.ofNat line ++ ", 列 " ++ Text.ofNat column ++ ")"

theorem positionText_eq (line column : Nat) : positionText line column =
    " (行 ".toList ++ (Text.ofNat line ++ (", 列 ".toList ++ (Text.ofNat column ++ ")".toList))) := by
  -- The equation that `unfold` would make computes the characters of the literals.
  delta positionText
  simp only [List.append_assoc]

theorem line_eq_of_positionText_eq {line column other otherColumn : Nat}
    (h : positionText line column = positionText other otherColumn) : line = other := by
  have hcomma : ∀ rest : Text, ∀ c ∈ (", 列 ".toList ++ rest).head?, ¬ c.isDigit = true :=
    fun rest => Text.forall_head?_cons (by decide) _
  rw [positionText_eq, positionText_eq] at h
  have hdigits := (Text.run_append_inj (Text.isDigits_ofNat line) (Text.isDigits_ofNat other)
    (hcomma _) (hcomma _) (List.append_cancel_left h)).1
  rw [← Text.digitsValue_ofNat line, hdigits, Text.digitsValue_ofNat]

/-- The line that a message about a fault of syntax gives, if it gives a position. -/
def LineOfMessage (message : Text) (line : Option Nat) : Prop :=
  ∀ n, line = some n ↔ ∃ column, message = LoadFault.syntaxMessage ++ positionText n column

variable {ε : Type} {tell : ε → Text}

theorem lineOfMessage_syntaxAt (mark : Yaml.Mark) :
    LineOfMessage ((LoadFault.unreadable (.syntaxAt mark)).message tell) (some (mark.line + 1)) := by
  intro n
  constructor
  · intro h
    obtain rfl := Option.some.inj h
    exact ⟨mark.column + 1, rfl⟩
  · rintro ⟨column, h⟩
    exact congrArg some (line_eq_of_positionText_eq (List.append_cancel_left h))

theorem lineOfMessage_syntaxNowhere :
    LineOfMessage ((LoadFault.unreadable .syntaxNowhere).message tell) none := by
  intro n
  constructor
  · intro h
    exact absurd h (by simp)
  · rintro ⟨column, h⟩
    have hnil : positionText n column = [] :=
      List.append_cancel_left (h.symm.trans (List.append_nil _).symm)
    exact absurd hnil (by simp [positionText_eq])

/-! ### Findings -/

/-- The place of a fault in words; the whole recording has a word of its own. -/
def locationText : List Locus → Text
  | [] => "recording"
  | place => Text.join " -> " (place.map Locus.text)

theorem ofFault_eq :
    Finding.ofFault = fun fault => ⟨fault.message, locationText fault.place, none⟩ := by
  funext fault
  unfold Finding.ofFault locationText
  cases fault.place <;> rfl

/-- A fault of syntax is one that is no other. -/
def ReadFault.IsSyntax (fault : ReadFault ε) : Prop := ∀ other, fault ≠ .other other

namespace RecordingFile

/-- There are bytes at the path, and this is what they are read as. -/
def Yields (reader : DataReader ε) (file : RecordingFile) (outcome : Except (ReadFault ε) Value) :
    Prop :=
  ∃ bytes, file.entry = .ok (some (.bytes bytes)) ∧ reader.read bytes = outcome

/-- A fault for which a file holds no recording, and the findings that report it. -/
inductive Reports (reader : DataReader ε) (file : RecordingFile) :
    LoadFault ε → List Finding → Prop
  | missing (h : file.entry = .ok none) : Reports reader file (.missing file.path)
      [⟨(LoadFault.missing file.path).message reader.tell, "file", none⟩]
  /-- The line of the finding is that of the message, if there is one. -/
  | syntaxFault {fault : ReadFault ε} {line : Option Nat} (h : file.Yields reader (.error fault))
    (hfault : fault.IsSyntax)
    (hline : LineOfMessage ((LoadFault.unreadable fault).message reader.tell) line) :
    Reports reader file (.unreadable fault) [⟨LoadFault.syntaxMessage, "yaml", line⟩]
  | empty (h : file.Yields reader (.ok .null)) :
    Reports reader file .empty [⟨LoadFault.empty.message reader.tell, "file", none⟩]
  | invalid {value : Value} {faults : List Fault} (h : file.Yields reader (.ok value))
    (hnull : value ≠ .null) (hcheck : checkRecording value = .rejected faults) :
    Reports reader file (.invalid faults)
      (faults.map fun fault => ⟨fault.message, locationText fault.place, none⟩)

/-- A fault that leaves it open what a file holds: the system does not let it be looked for or
opened, or reading it fails, and not because the rules of YAML are broken. -/
inductive Obscured (reader : DataReader ε) (file : RecordingFile) : LoadFault ε → Prop
  | hidden {fault : PathFault} (h : file.entry = .error fault) : Obscured reader file (.refused fault)
  | directory (h : file.entry = .ok (some .directory)) :
    Obscured reader file (.refused ⟨.isDirectory, file.path⟩)
  | closed {problem : PathProblem} (h : file.entry = .ok (some (.closed problem))) :
    Obscured reader file (.refused ⟨problem, file.path⟩)
  | text {fault : ε} (h : file.Yields reader (.error (.other fault))) :
    Obscured reader file (.unreadable (.other fault))

theorem Reports.ne_nil {reader : DataReader ε} {file : RecordingFile} {fault : LoadFault ε}
    {findings : List Finding} (h : file.Reports reader fault findings) : findings ≠ [] := by
  cases h with
  | missing | syntaxFault | empty => exact List.cons_ne_nil _ _
  | @invalid value faults _ _ hcheck =>
    intro hnil
    apply reasoned_checkRecording value
    rw [hcheck, List.map_eq_nil_iff.mp hnil]

end RecordingFile

/-! ### Verdicts -/

inductive Verdict where
  /-- It holds a recording. -/
  | accepted
  /-- It holds none, and findings say why. -/
  | reported
  /-- It cannot be said what it holds. -/
  | brokenOff
deriving DecidableEq

namespace RecordingFile

/-- What loading and validating the file yield amounts to the verdict. -/
def Agrees (reader : DataReader ε) (file : RecordingFile) : Verdict → Prop
  | .accepted => ∃ value recording, file.Yields reader (.ok value) ∧
      checkRecording value = .accepted recording ∧ file.loadWith reader = .ok recording ∧
      file.validateWith reader = .ok []
  | .reported => ∃ fault findings, file.Reports reader fault findings ∧ findings ≠ [] ∧
      file.loadWith reader = .error fault ∧ file.validateWith reader = .ok findings
  | .brokenOff => ∃ fault, file.Obscured reader fault ∧
      file.loadWith reader = .error fault ∧ file.validateWith reader = .error fault

variable {reader : DataReader ε} {file : RecordingFile}

/-- There is one verdict at most, since the results are different in each. -/
theorem Agrees.unique {verdict other : Verdict} (h : file.Agrees reader verdict)
    (ho : file.Agrees reader other) : verdict = other := by
  cases verdict <;> cases other <;> simp only [Agrees] at h ho <;> grind

theorem agrees_reported {fault : LoadFault ε} {findings : List Finding}
    (h : file.Reports reader fault findings) (hload : file.loadWith reader = .error fault)
    (hvalidate : file.validateWith reader = .ok findings) : file.Agrees reader .reported :=
  ⟨fault, findings, h, h.ne_nil, hload, hvalidate⟩

theorem error_of_obscured {fault : LoadFault ε} (h : file.Obscured reader fault) :
    file.loadWith reader = .error fault ∧ file.validateWith reader = .error fault := by
  cases h with
  | hidden hentry => simp only [loadWith, validateWith, hentry, and_self]
  | directory hentry => simp only [loadWith, validateWith, hentry, FileEntry.opened, and_self]
  | closed hentry => simp only [loadWith, validateWith, hentry, FileEntry.opened, and_self]
  | text h =>
    obtain ⟨bytes, hentry, hread⟩ := h
    simp only [loadWith, validateWith, hentry, FileEntry.opened, hread, and_self]

theorem agrees_brokenOff {fault : LoadFault ε} (h : file.Obscured reader fault) :
    file.Agrees reader .brokenOff :=
  ⟨fault, h, error_of_obscured h⟩

/-- A text that breaks the rules of YAML is reported; other faults of reading break both off. -/
theorem agrees_of_error {fault : ReadFault ε} (h : file.Yields reader (.error fault)) :
    file.Agrees reader .reported ∨ file.Agrees reader .brokenOff := by
  obtain ⟨bytes, hentry, hread⟩ := id h
  cases fault with
  | syntaxAt mark =>
    have hreports := Reports.syntaxFault h (fun _ => nofun) (lineOfMessage_syntaxAt mark)
    refine .inl (agrees_reported hreports ?_ ?_)
    · simp only [loadWith, hentry, FileEntry.opened, hread]
    · simp only [validateWith, hentry, FileEntry.opened, hread, Finding.ofSyntax]
  | syntaxNowhere =>
    have hreports := Reports.syntaxFault h (fun _ => nofun) lineOfMessage_syntaxNowhere
    refine .inl (agrees_reported hreports ?_ ?_)
    · simp only [loadWith, hentry, FileEntry.opened, hread]
    · simp only [validateWith, hentry, FileEntry.opened, hread, Finding.ofSyntax]
  | other fault => exact .inr (agrees_brokenOff (.text h))

/-- Data that are read are accepted, or all faults of them are reported. -/
theorem agrees_of_value {value : Value} (h : file.Yields reader (.ok value)) :
    file.Agrees reader .accepted ∨ file.Agrees reader .reported := by
  obtain ⟨bytes, hentry, hread⟩ := id h
  by_cases hnull : value = .null
  · subst hnull
    refine .inr (agrees_reported (.empty h) ?_ ?_)
    · simp only [loadWith, hentry, FileEntry.opened, hread]
    · simp only [validateWith, hentry, FileEntry.opened, hread]
      rfl
  · cases hcheck : checkRecording value with
    | accepted recording =>
      refine .inl ⟨value, recording, h, hcheck, ?_, ?_⟩
      · simp only [loadWith, hentry, FileEntry.opened, hread, hcheck]
      · simp only [validateWith, hentry, FileEntry.opened, hread, hcheck]
    | rejected faults =>
      refine .inr (agrees_reported (.invalid h hnull hcheck) ?_ ?_)
      · simp only [loadWith, hentry, FileEntry.opened, hread, hcheck]
      · simp only [validateWith, hentry, FileEntry.opened, hread, hcheck, ofFault_eq]

theorem exists_agrees (reader : DataReader ε) (file : RecordingFile) :
    ∃ verdict, file.Agrees reader verdict := by
  rcases hentry : file.entry with fault | entry
  · exact ⟨_, agrees_brokenOff (.hidden hentry)⟩
  · rcases entry with _ | entry
    · refine ⟨_, agrees_reported (.missing hentry) ?_ ?_⟩
      · simp only [loadWith, hentry]
      · simp only [validateWith, hentry]
        rfl
    · cases entry with
      | directory => exact ⟨_, agrees_brokenOff (.directory hentry)⟩
      | closed problem => exact ⟨_, agrees_brokenOff (.closed hentry)⟩
      | bytes bytes =>
        cases hread : reader.read bytes with
        | error fault => exact (agrees_of_error ⟨bytes, hentry, hread⟩).elim (⟨_, ·⟩) (⟨_, ·⟩)
        | ok value => exact (agrees_of_value ⟨bytes, hentry, hread⟩).elim (⟨_, ·⟩) (⟨_, ·⟩)

/-- Loading a file and validating it come to the same verdict, and to one only, however data is read
from bytes and whatever the system refuses. -/
theorem existsUnique_agrees (reader : DataReader ε) (file : RecordingFile) :
    ∃! verdict, file.Agrees reader verdict := by
  obtain ⟨verdict, h⟩ := file.exists_agrees reader
  exact ⟨verdict, h, fun _ ho => ho.unique h⟩

end RecordingFile

end SessionReplay
