import SessionReplay.Program.Block
import SessionReplay.Program.Frame
import SessionReplay.Recording.Basic

/-!
# Programs

A program is its beginning, one block for each step and its end, in this order. If any of them
cannot be written there is no program, and the first fault in this order is reported.
-/

namespace SessionReplay

inductive Language where
  | csharp
deriving DecidableEq, Repr

namespace Language

def all : List Language := [.csharp]

def id : Language → Text
  | .csharp => "csharp"

def displayName : Language → Text
  | .csharp => "C#"

def highlighter : Language → Text
  | .csharp => "csharp"

def standard : Language := .csharp

def ofId? (wanted : Text) : Option Language := all.find? (·.id == wanted)

end Language

namespace Program

def blocks : List Step → Except ProgramFault (List Text)
  | [] => .ok []
  | step :: rest => do
    let first ← block step
    .ok (first :: (← blocks rest))

/-- The program that repeats steps with the given options. -/
def generate (options : SessionOptions) (steps : List Step) : Except ProgramFault Text := do
  let beginning ← header options
  let middle ← blocks steps
  .ok (Text.unlines (beginning :: middle ++ [footer options.storage]))

end Program
end SessionReplay
