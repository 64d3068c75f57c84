import SessionReplay.File.Path
import SessionReplay.Value.Display

/-!
# What stands at a path

Something that stands at a path is a directory, or a file with its bytes, or something that cannot be
opened. The system gives a number and a reason for what it does not do.
-/

namespace SessionReplay

inductive PathProblem where
  | notFound
  | denied
  | alreadyExists
  | notDirectory
  | isDirectory
  | nameTooLong
  | other (number : Nat) (reason : Text)
deriving DecidableEq

namespace PathProblem

def number : PathProblem → Nat
  | .notFound => 2
  | .denied => 13
  | .alreadyExists => 17
  | .notDirectory => 20
  | .isDirectory => 21
  | .nameTooLong => 36
  | .other number _ => number

def reason : PathProblem → Text
  | .notFound => "No such file or directory"
  | .denied => "Permission denied"
  | .alreadyExists => "File exists"
  | .notDirectory => "Not a directory"
  | .isDirectory => "Is a directory"
  | .nameTooLong => "File name too long"
  | .other _ reason => reason

/-- Whether the problem amounts to nothing being there. A descriptor that is none (9) and links that
lead in a circle (40) do, too. -/
def isAbsence (problem : PathProblem) : Bool := [2, 9, 20, 40].contains problem.number

end PathProblem

structure PathFault where
  problem : PathProblem
  path : Path
deriving DecidableEq

def PathFault.message (fault : PathFault) : Text :=
  "[Errno " ++ Text.ofNat fault.problem.number ++ "] " ++ fault.problem.reason ++ ": " ++
    fault.path.text.shown

inductive FileEntry where
  | directory
  | bytes (data : List UInt8)
  | closed (problem : PathProblem)

/-- The bytes of a file that is opened. -/
def FileEntry.opened : FileEntry → Except PathProblem (List UInt8)
  | .directory => .error .isDirectory
  | .bytes data => .ok data
  | .closed problem => .error problem

end SessionReplay
