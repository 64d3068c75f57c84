import SessionReplay.Command.Run
import SessionReplay.File.Source
import SessionReplay.Proofs.Command.Host
import SessionReplay.Proofs.File.Verdict

/-!
# How validation ends

The command that validates a recording tells what is wrong with the file whenever that can be said.
It reports no fault that breaks the validation off, nor that the check mark cannot be printed; such a
fault ends the command.
-/

namespace SessionReplay

variable {ε : Type}

/-- Validation is broken off by the faults that obscure the file, and by no others. -/
theorem RecordingFile.validateWith_eq_error_iff (reader : DataReader ε) (file : RecordingFile)
    (fault : LoadFault ε) :
    file.validateWith reader = .error fault ↔ file.Obscured reader fault := by
  constructor
  · intro h
    obtain ⟨verdict, hverdict⟩ := file.exists_agrees reader
    cases verdict with
    | accepted =>
      obtain ⟨_, _, _, _, _, hvalidate⟩ := hverdict
      cases hvalidate.symm.trans h
    | reported =>
      obtain ⟨_, _, _, _, _, hvalidate⟩ := hverdict
      cases hvalidate.symm.trans h
    | brokenOff =>
      obtain ⟨_, hobscured, _, hvalidate⟩ := hverdict
      cases hvalidate.symm.trans h
      exact hobscured
  · intro h
    exact (error_of_obscured h).2

namespace Command

/-- The command has told the findings and ended by itself: with a check mark if there are none, else
with a cross for each of them. -/
structure Tells (host : Host ε) (recording : Path) (findings : List Finding) (outcome : Outcome ε) :
    Prop where
  escaped : outcome.escaped = none
  exitCode : outcome.exitCode = if findings = [] then 0 else 1
  out : if findings = [] then Shows host.outIsTerminal (checkMark recording) outcome.out
    else outcome.out = []
  err : outcome.err = findings.map fun finding => host.say finding.report
  /-- Each message begins with a cross. -/
  cross : ∀ message ∈ outcome.err, "✗ ".toList <+: message

/-- The command has been broken off by a fault and has told nothing. -/
structure BreaksOff (fault : EscapedFault ε) (outcome : Outcome ε) : Prop where
  escaped : outcome.escaped = some fault
  exitCode : outcome.exitCode = 1
  out : outcome.out = []
  err : outcome.err = []

variable {host : Host ε} {recording : Path} {directory : Directory}

/-- What keeps the command from ending by itself: a fault that obscures the file, or one of printing
the check mark behind a file without findings. -/
inductive Stops (host : Host ε) (recording : Path) (file : RecordingFile) : EscapedFault ε → Prop
  | load {fault : LoadFault ε} (h : file.Obscured host.reader fault) :
    Stops host recording file (.load fault)
  | printing {fault : ε} (h : file.validateWith host.reader = .ok [])
    (hprint : host.refuses (shownOn host.outIsTerminal (checkMark recording)) = some fault) :
    Stops host recording file (.printing fault)

theorem cross_prefix_report (host : Host ε) (finding : Finding) :
    "✗ ".toList <+: host.say finding.report := by
  have hreport : ∃ rest, finding.report = "✗ ".toList ++ rest := by
    simp only [Finding.report, List.append_assoc]
    exact ⟨_, rfl⟩
  obtain ⟨rest, hrest⟩ := hreport
  rw [Host.say, hrest, shownOn_append (by decide)]
  exact List.prefix_append _ _

theorem directory_runValidate (host : Host ε) (recording : Path) (directory : Directory) :
    (runValidate host recording directory).directory = directory := by
  unfold runValidate
  split
  · split <;> rfl
  · rfl
  · rfl

theorem breaksOff_of_stops {fault : EscapedFault ε}
    (h : Stops host recording (directory.recordingFile recording) fault) :
    BreaksOff fault (runValidate host recording directory) := by
  cases h with
  | load hobscured =>
    rw [runValidate, (RecordingFile.error_of_obscured hobscured).2]
    exact ⟨rfl, rfl, rfl, rfl⟩
  | printing hvalidate hprint =>
    rw [runValidate, hvalidate]
    simp only [print_eq_error hprint]
    exact ⟨rfl, rfl, rfl, rfl⟩

theorem exists_tells_of_forall_not_stops
    (h : ∀ fault, ¬ Stops host recording (directory.recordingFile recording) fault) :
    ∃ findings, (directory.recordingFile recording).validateWith host.reader = .ok findings ∧
      Tells host recording findings (runValidate host recording directory) := by
  cases hvalidate : (directory.recordingFile recording).validateWith host.reader with
  | error fault =>
    exact absurd (.load ((RecordingFile.validateWith_eq_error_iff _ _ fault).mp hvalidate)) (h _)
  | ok findings =>
    refine ⟨findings, rfl, ?_⟩
    rw [runValidate, hvalidate]
    cases findings with
    | nil =>
      cases hprint : host.refuses (shownOn host.outIsTerminal (checkMark recording)) with
      | some fault => exact absurd (.printing hvalidate hprint) (h _)
      | none =>
        simp only [print_eq_ok hprint]
        exact ⟨rfl, rfl, shows_iff.mpr rfl, rfl, fun _ => nofun⟩
    | cons finding rest =>
      refine ⟨rfl, rfl, rfl, rfl, fun message hmem => ?_⟩
      obtain ⟨finding, -, rfl⟩ := List.mem_map.mp hmem
      exact cross_prefix_report host finding

/-- However data is read and whatever the system refuses, validation yields findings unless a fault
obscures the file, and the command tells them and ends by itself unless a fault stops it; then it is
broken off by this fault. Files stay as they are. -/
theorem runValidate_iff (host : Host ε) (recording : Path) (directory : Directory) :
    let file := directory.recordingFile recording
    let outcome := runValidate host recording directory
    (∀ fault, file.Obscured host.reader fault ↔ file.validateWith host.reader = .error fault) ∧
      ((∀ fault, ¬ Stops host recording file fault) ↔
        ∃ findings, file.validateWith host.reader = .ok findings ∧
          Tells host recording findings outcome) ∧
      (∀ fault, Stops host recording file fault ↔ BreaksOff fault outcome) ∧
      outcome.directory = directory := by
  intro file outcome
  have hapart : ∀ {findings fault}, Tells host recording findings outcome →
      ¬ BreaksOff fault outcome := fun htells hbreaks => by
    cases htells.escaped.symm.trans hbreaks.escaped
  refine ⟨fun fault => (RecordingFile.validateWith_eq_error_iff _ file fault).symm, ⟨?_, ?_⟩,
    fun fault => ⟨breaksOff_of_stops, fun hbreaks => ?_⟩,
    directory_runValidate host recording directory⟩
  · exact exists_tells_of_forall_not_stops
  · rintro ⟨findings, -, htells⟩ fault hstops
    exact hapart htells (breaksOff_of_stops hstops)
  · by_cases hstops : ∃ other, Stops host recording file other
    · obtain ⟨other, hother⟩ := hstops
      have hsame := (breaksOff_of_stops hother).escaped.symm.trans hbreaks.escaped
      exact Option.some.inj hsame ▸ hother
    · obtain ⟨_, -, htells⟩ := exists_tells_of_forall_not_stops (not_exists.mp hstops)
      exact absurd hbreaks (hapart htells)

/-- A directory in the place of the file breaks the command off. -/
theorem not_forall_escaped_eq_none : ¬ ∀ (host : Host YamlBreakdown) (recording : Path)
    (directory : Directory), (runValidate host recording directory).escaped = none := by
  intro h
  have hd := h ⟨.yaml, false, false, fun _ => none⟩ (.ofText "d")
    { entries := [(["d"], .directory)] }
  revert hd
  decide

end Command
end SessionReplay
