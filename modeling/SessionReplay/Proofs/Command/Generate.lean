import SessionReplay.Command.Run
import SessionReplay.File.Source
import SessionReplay.Proofs.Command.Host
import SessionReplay.Proofs.File.Clear
import SessionReplay.Proofs.Text.Utf8

/-!
# How the writing of a program ends

A program is made in steps: the recording is loaded, the options are put together, the language is
looked up, and the program is written down. The first step that fails decides on the message, and
then nothing is printed and no file is touched. A program that is made is delivered as a whole, to the
standard output or to the file that is asked for. The file holds the program; an output that is no
terminal shows it without the control sequences that recorded texts have brought into it.
-/

namespace SessionReplay

variable {ε : Type}

namespace GenerateRequest

/-! ### The steps -/

/-- The recording of a file, and the options that the settings, the recording and the choices come
to. -/
structure Gathers (request : GenerateRequest) (reader : DataReader ε) (environment : Environment)
    (file : RecordingFile) (recording : Recording) (options : SessionOptions) : Prop where
  load : file.loadWith reader = .ok recording
  merge : (Settings.ofEnvironment environment).merge recording.options request.choices =
    .accepted options

/-- What the steps come to: the whole program, or the fault of the first step that fails. -/
inductive Makes (request : GenerateRequest) (reader : DataReader ε) (environment : Environment)
    (file : RecordingFile) : Except (GenerateFault ε) Text → Prop
  | load {fault : LoadFault ε} (hload : file.loadWith reader = .error fault) :
    Makes request reader environment file (.error (.load fault))
  | options {recording : Recording} {faults : List Fault} (hload : file.loadWith reader = .ok recording)
    (hmerge : (Settings.ofEnvironment environment).merge recording.options request.choices =
      .rejected faults) :
    Makes request reader environment file (.error (.options faults))
  | language {recording : Recording} {options : SessionOptions}
    (hgathers : request.Gathers reader environment file recording options)
    (hlanguage : Language.ofId? (request.language (Settings.ofEnvironment environment)) = none) :
    Makes request reader environment file
      (.error (.unknownLanguage (request.language (Settings.ofEnvironment environment))))
  | program {recording : Recording} {options : SessionOptions} {language : Language}
    {fault : Program.ProgramFault}
    (hgathers : request.Gathers reader environment file recording options)
    (hlanguage : Language.ofId? (request.language (Settings.ofEnvironment environment)) =
      some language)
    (hgenerate : Program.generate options recording.steps = .error fault) :
    Makes request reader environment file (.error (.program fault))
  | complete {recording : Recording} {options : SessionOptions} {language : Language} {program : Text}
    (hgathers : request.Gathers reader environment file recording options)
    (hlanguage : Language.ofId? (request.language (Settings.ofEnvironment environment)) =
      some language)
    (hgenerate : Program.generate options recording.steps = .ok program) :
    Makes request reader environment file (.ok program)

variable {request : GenerateRequest} {reader : DataReader ε} {environment : Environment}
  {file : RecordingFile} {recording : Recording} {options : SessionOptions}
  {result : Except (GenerateFault ε) Text}

theorem program_of_load_eq_ok (hload : file.loadWith reader = .ok recording) :
    request.program reader environment file =
      match (Settings.ofEnvironment environment).merge recording.options request.choices with
      | .rejected faults => .error (.options faults)
      | .accepted options =>
        let id := request.language (Settings.ofEnvironment environment)
        match Language.ofId? id with
        | none => .error (.unknownLanguage id)
        | some _ => (Program.generate options recording.steps).mapError .program := by
  rw [program, hload]
  rfl

theorem program_of_gathers (hgathers : request.Gathers reader environment file recording options) :
    request.program reader environment file =
      match Language.ofId? (request.language (Settings.ofEnvironment environment)) with
      | none => .error (.unknownLanguage (request.language (Settings.ofEnvironment environment)))
      | some _ => (Program.generate options recording.steps).mapError .program := by
  rw [program_of_load_eq_ok hgathers.load, hgathers.merge]

theorem Makes.program_eq (h : request.Makes reader environment file result) :
    request.program reader environment file = result := by
  cases h with
  | load hload =>
    rw [GenerateRequest.program, hload]
    rfl
  | options hload hmerge => rw [program_of_load_eq_ok hload, hmerge]
  | language hgathers hlanguage => rw [program_of_gathers hgathers, hlanguage]
  | program hgathers hlanguage hgenerate =>
    rw [program_of_gathers hgathers, hlanguage, hgenerate]
    rfl
  | complete hgathers hlanguage hgenerate =>
    rw [program_of_gathers hgathers, hlanguage, hgenerate]
    rfl

theorem makes_program (request : GenerateRequest) (reader : DataReader ε) (environment : Environment)
    (file : RecordingFile) :
    request.Makes reader environment file (request.program reader environment file) := by
  cases hload : file.loadWith reader with
  | error fault =>
    rw [GenerateRequest.program, hload]
    exact .load hload
  | ok recording =>
    cases hmerge : (Settings.ofEnvironment environment).merge recording.options request.choices with
    | rejected faults =>
      rw [program_of_load_eq_ok hload, hmerge]
      exact .options hload hmerge
    | accepted options =>
      have hgathers : request.Gathers reader environment file recording options := ⟨hload, hmerge⟩
      rw [program_of_gathers hgathers]
      cases hlanguage : Language.ofId? (request.language (Settings.ofEnvironment environment)) with
      | none => exact .language hgathers hlanguage
      | some language =>
        cases hgenerate : Program.generate options recording.steps with
        | error fault => exact .program hgathers hlanguage hgenerate
        | ok program => exact .complete hgathers hlanguage hgenerate

theorem makes_iff : request.Makes reader environment file result ↔
    request.program reader environment file = result := by
  constructor
  · exact Makes.program_eq
  · intro h
    exact h ▸ makes_program request reader environment file

/-! ### What is left behind -/

/-- The program has been printed, and files are as they were. -/
structure Prints (host : Host ε) (warnings : List Text) (program : Text) (before : Directory)
    (outcome : Outcome ε) : Prop where
  escaped : outcome.escaped = none
  exitCode : outcome.exitCode = 0
  out : Shows host.outIsTerminal program outcome.out
  /-- The program is shown as a whole unless it holds orders to a terminal and is shown elsewhere. -/
  whole : outcome.out = program ↔
    host.outIsTerminal = true ∨ ∀ sequence, Text.IsControl sequence → ¬ sequence <:+: program
  err : outcome.err = warnings
  directory : outcome.directory = before

/-- The file at the path holds the program as a whole; nothing has been printed, and nothing else that
was there is another thing. -/
structure Saves (host : Host ε) (warnings : List Text) (path : Path) (program : Text)
    (before : Directory) (outcome : Outcome ε) : Prop where
  escaped : outcome.escaped = none
  exitCode : outcome.exitCode = 0
  out : outcome.out = []
  err : outcome.err = warnings ++ [host.say ("生成完了: " ++ path.text)]
  wrote : ∃ data, Text.ofUtf8 data = .ok program ∧
    Directory.Wrote path data before outcome.directory

/-- The fault has been told, and nothing has been printed. -/
structure GivesUp (host : Host ε) (warnings : List Text) (fault : GenerateFault ε)
    (outcome : Outcome ε) : Prop where
  escaped : outcome.escaped = none
  exitCode : outcome.exitCode = 1
  out : outcome.out = []
  err : outcome.err = warnings ++ [host.say ("エラー: " ++ fault.message host.reader.tell)]

variable {host : Host ε} {directory : Directory} {program : Text}

theorem givesUp_run {fault : GenerateFault ε}
    (h : request.program host.reader environment (directory.recordingFile request.recording) =
      .error fault) :
    GivesUp host (Settings.warnings environment) fault (request.run host environment directory) ∧
      (request.run host environment directory).directory = directory := by
  rw [run, h]
  exact ⟨⟨rfl, rfl, rfl, rfl⟩, rfl⟩

theorem prints_run (houtput : request.output = none)
    (h : request.program host.reader environment (directory.recordingFile request.recording) =
      .ok program)
    (hprint : host.refuses (shownOn host.outIsTerminal program) = none) :
    Prints host (Settings.warnings environment) program directory
      (request.run host environment directory) := by
  have hshows : Shows host.outIsTerminal program (shownOn host.outIsTerminal program) :=
    shows_iff.mpr rfl
  rw [run, h]
  simp only [deliver, houtput, print_eq_ok hprint]
  exact ⟨rfl, rfl, hshows, hshows.eq_iff, List.append_nil _, rfl⟩

theorem givesUp_run_of_print {fault : ε} (houtput : request.output = none)
    (h : request.program host.reader environment (directory.recordingFile request.recording) =
      .ok program)
    (hprint : host.refuses (shownOn host.outIsTerminal program) = some fault) :
    GivesUp host (Settings.warnings environment) (.printing fault)
        (request.run host environment directory) ∧
      (request.run host environment directory).directory = directory := by
  rw [run, h]
  simp only [deliver, houtput, print_eq_error hprint]
  exact ⟨⟨rfl, rfl, rfl, rfl⟩, rfl⟩

theorem saves_run {path : Path} (houtput : request.output = some path)
    (h : request.program host.reader environment (directory.recordingFile request.recording) =
      .ok program)
    (hwrite : (directory.write path program.toUtf8).fault = none) :
    Saves host (Settings.warnings environment) path program directory
      (request.run host environment directory) := by
  rw [run, h]
  simp only [deliver, houtput, hwrite]
  exact ⟨rfl, rfl, rfl, rfl, _, Text.ofUtf8_toUtf8 program, Directory.wrote_write hwrite⟩

theorem givesUp_run_of_write {path : Path} {fault : PathFault} (houtput : request.output = some path)
    (h : request.program host.reader environment (directory.recordingFile request.recording) =
      .ok program)
    (hwrite : (directory.write path program.toUtf8).fault = some fault) :
    GivesUp host (Settings.warnings environment) (.output fault)
      (request.run host environment directory) := by
  rw [run, h]
  simp only [deliver, houtput, hwrite]
  exact ⟨rfl, rfl, rfl, rfl⟩

end GenerateRequest

open GenerateRequest in
/-- All or nothing is delivered, whatever the host, the recording, the environment and the options
are. Either the steps come to a program: then it is printed if there is to be no file, unless the
output refuses it, and otherwise it is saved, unless the file cannot be written; it can be if the way
to it is clear. Or they come to the fault of the first that fails: then this is told, and files are as
they were. -/
theorem run_generate_cases (host : Host ε) (recording : Path) (choices : Choices)
    (target : Option Text) (environment : Environment) (directory : Directory) :
    let request (output : Option Path) : GenerateRequest := ⟨recording, output, choices, target⟩
    let makes (output : Option Path) :=
      (request output).Makes host.reader environment (directory.recordingFile recording)
    let outcome (output : Option Path) :=
      Command.run host environment directory (.generate (request output))
    let warnings := Settings.warnings environment
    (∃ program, (∀ output result, makes output result ↔ .ok program = result) ∧
        (host.refuses (shownOn host.outIsTerminal program) = none ∧
            Prints host warnings program directory (outcome none) ∨
          ∃ fault, host.refuses (shownOn host.outIsTerminal program) = some fault ∧
            GivesUp host warnings (.printing fault) (outcome none) ∧
            (outcome none).directory = directory) ∧
        ∀ path,
          ((directory.write path program.toUtf8).fault = none ∧
              Saves host warnings path program directory (outcome (some path)) ∨
            ∃ fault, (directory.write path program.toUtf8).fault = some fault ∧
              GivesUp host warnings (.output fault) (outcome (some path))) ∧
          (directory.IsClear path →
            Saves host warnings path program directory (outcome (some path)))) ∨
      ∃ fault, (∀ output result, makes output result ↔ .error fault = result) ∧
        ∀ output, GivesUp host warnings fault (outcome output) ∧
          (outcome output).directory = directory := by
  intro request makes outcome warnings
  -- The output has no part in what is made.
  cases h : (request none).program host.reader environment (directory.recordingFile recording) with
  | ok program =>
    have hprogram : ∀ output, (request output).program host.reader environment
      (directory.recordingFile recording) = .ok program := fun _ => h
    refine .inl ⟨program, fun output result => ?_, ?_, fun path => ⟨?_, ?_⟩⟩
    · rw [← hprogram output]
      exact makes_iff
    · cases hprint : host.refuses (shownOn host.outIsTerminal program) with
      | none => exact .inl ⟨rfl, prints_run rfl h hprint⟩
      | some fault => exact .inr ⟨fault, rfl, givesUp_run_of_print rfl h hprint⟩
    · cases hwrite : (directory.write path program.toUtf8).fault with
      | none => exact .inl ⟨rfl, saves_run rfl (hprogram (some path)) hwrite⟩
      | some fault =>
        exact .inr ⟨fault, rfl, givesUp_run_of_write rfl (hprogram (some path)) hwrite⟩
    · rintro ⟨front, more, here, hclear⟩
      exact saves_run rfl (hprogram (some path)) (hclear.fault_write program.toUtf8)
  | error fault =>
    have hfault : ∀ output, (request output).program host.reader environment
      (directory.recordingFile recording) = .error fault := fun _ => h
    refine .inr ⟨fault, fun output result => ?_, fun output => givesUp_run (hfault output)⟩
    rw [← hfault output]
    exact makes_iff

namespace GenerateRequest

/-- A recording whose step checks what a colour stands before. -/
def colouredRecording : Text :=
  "actions:\n- pageAlias: page\n  action: \x7bname: check, selector: \"\\e[31mx\"\x7d\n"

/-- A program that is printed elsewhere than on a terminal need not be the program as a whole. -/
theorem not_forall_out_eq_program : ¬ ∀ (host : Host YamlBreakdown) (request : GenerateRequest)
    (environment : Environment) (directory : Directory) (program : Text),
    request.output = none →
      request.Makes host.reader environment (directory.recordingFile request.recording)
        (.ok program) →
      (request.run host environment directory).out = program := by
  intro h
  let host : Host YamlBreakdown := ⟨.yaml, false, false, fun _ => none⟩
  let request : GenerateRequest := ⟨.ofText "r.yaml", none, {}, none⟩
  let directory : Directory := { entries := [(["r.yaml"], .bytes colouredRecording.toUtf8)] }
  let made := request.program host.reader [] (directory.recordingFile request.recording)
  have hmade : made.toOption.isSome = true := by decide +kernel
  have hshown : made.toOption ≠ some (request.run host [] directory).out := by decide +kernel
  cases hprogram : made with
  | error fault =>
    rw [hprogram] at hmade
    cases hmade
  | ok program =>
    have hout := h host request [] directory program rfl (makes_iff.mpr hprogram)
    rw [hprogram] at hshown
    exact hshown (congrArg some hout.symm)

end GenerateRequest

end SessionReplay
