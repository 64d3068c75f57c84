import SessionReplay.Command.Arguments
import SessionReplay.File.Path
import SessionReplay.Settings

/-!
# Commands

What can be asked for on the command line: the program of a recording, the validation of a
recording, and the list of devices.
-/

namespace SessionReplay

inductive GenerateOption where
  | output
  | browser
  | device
  | storage
  | target
deriving DecidableEq

structure GenerateRequest where
  recording : Path
  /-- The file for the program; if there is none, the program is printed. -/
  output : Option Path
  choices : Choices
  /-- The language of the program. -/
  target : Option Text

inductive Command where
  | generate (request : GenerateRequest)
  | validate (recording : Path)
  | devices

structure Invocation where
  verbose : Bool
  command : Command

namespace GenerateRequest

def forms : List (OptionForm GenerateOption) :=
  [⟨.output, "--output", some 'o', true⟩, ⟨.browser, "--browser", some 'b', true⟩,
    ⟨.device, "--device", none, true⟩, ⟨.storage, "--save-storage", none, true⟩,
    ⟨.target, "--target", some 't', true⟩]

def ofArguments? (arguments : List Text) : Option GenerateRequest := do
  let arguments ← Arguments.read? forms false arguments
  match arguments.others with
  | [recording] =>
    some
      { recording := .ofText recording
        output := (arguments.value? .output).map .ofText
        choices :=
          { browser := arguments.value? .browser
            device := arguments.value? .device
            storage := arguments.value? .storage }
        target := arguments.value? .target }
  | _ => none

end GenerateRequest

namespace Command

def plainArguments? (arguments : List Text) : Option (List Text) :=
  (Arguments.read? ([] : List (OptionForm Unit)) false arguments).map Arguments.others

def ofArguments? (name : Text) (arguments : List Text) : Option Command :=
  if name = "generate" then (GenerateRequest.ofArguments? arguments).map .generate
  else if name = "validate" then
    match plainArguments? arguments with
    | some [recording] => some (.validate (.ofText recording))
    | _ => none
  else if name = "devices" then
    match plainArguments? arguments with
    | some [] => some .devices
    | _ => none
  else none

end Command

namespace Invocation

/-- The only option of the command line as a whole. -/
def forms : List (OptionForm Unit) := [⟨(), "--verbose", some 'v', false⟩]

/-- What a command line asks for; nothing, if it is not used as it should. -/
def ofArguments? (arguments : List Text) : Option Invocation := do
  let arguments ← Arguments.read? forms true arguments
  match arguments.others with
  | [] => none
  | name :: rest =>
    let command ← Command.ofArguments? name rest
    some { verbose := !arguments.given.isEmpty, command }

end Invocation
end SessionReplay
