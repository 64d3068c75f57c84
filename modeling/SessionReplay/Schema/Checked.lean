import SessionReplay.Schema.Fault

/-!
# Checked results

The result of reading data: what was read, or every fault found. Two readings side by side report
the faults of both, those of the first before those of the second.
-/

namespace SessionReplay

/-- Something read from data, or the faults that prevent it. -/
inductive Checked (α : Type) where
  | accepted (result : α)
  | rejected (faults : List Fault)

namespace Checked

variable {α β : Type}

def fail (cause : Cause) : Checked α := .rejected [⟨[], cause⟩]

def map (f : α → β) : Checked α → Checked β
  | .accepted a => .accepted (f a)
  | .rejected faults => .rejected faults

/-- Both readings; the faults of both are reported. -/
def both (f : Checked (α → β)) (x : Checked α) : Checked β :=
  match f, x with
  | .accepted f, .accepted a => .accepted (f a)
  | .accepted _, .rejected faults => .rejected faults
  | .rejected faults, .accepted _ => .rejected faults
  | .rejected first, .rejected second => .rejected (first ++ second)

instance : Applicative Checked where
  pure := .accepted
  map := map
  seq f x := both f (x ())

/-- Goes on with what was read; a rejected reading stays as it is. -/
def andThen (x : Checked α) (f : α → Checked β) : Checked β :=
  match x with
  | .accepted a => f a
  | .rejected faults => .rejected faults

/-- The reading as seen from one step further out. -/
def under (locus : Locus) : Checked α → Checked α
  | .accepted a => .accepted a
  | .rejected faults => .rejected (faults.map (Fault.under locus))

def ofFaults : List Fault → Checked Unit
  | [] => .accepted ()
  | faults => .rejected faults

def ofExcept : Except Cause α → Checked α
  | .ok a => .accepted a
  | .error cause => fail cause

def toOption : Checked α → Option α
  | .accepted a => some a
  | .rejected _ => none

end Checked
end SessionReplay
