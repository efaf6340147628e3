import RegisterMachine.CommandLine.Session

/-!
# Strict runs

A strict run and the command that only checks come to the structural check by different ways. They
read the limits and the program in the same order but word their failures differently, and only a
run can replace the step limit. `Checked` is the point where the two ways meet: the limits and the
program that both of them end up with, and what the check reports. Short of it both commands are
refused (`checked_or_refused`), and from there on each of them is told by the report alone.

What a command line does is read off its `Stage`. It may be over, with an exit code and its output,
or it may start a job, and then whatever the machine does is up to the job.
-/

namespace RegisterMachine.CommandLine

/-- The files of a command have been read: its limits, its program, and what the structural check
reports. -/
structure Checked (files : Files) (file : String) (config : Option String) (limits : Config)
    (p : Program) (ds : List Diagnostic) : Prop where
  limits_eq : loadConfig files config = .ok limits
  program_eq : ∃ text, readText files file = .ok text ∧ Program.ofText text = .ok p
  report_eq : p.check limits.registerCount standardCount = ds

def runLimits (limits : Config) : Option Nat → Config
  | some n => limits.withMaxSteps n
  | none => limits

@[simp] theorem registerCount_runLimits (limits : Config) (maxSteps : Option Nat) :
    (runLimits limits maxSteps).registerCount = limits.registerCount := by
  cases maxSteps <;> rfl

section Stages

variable {files : Files} {file : String} {config : Option String} {limits : Config} {p : Program}
  {ds : List Diagnostic}

namespace Checked

end Checked

end Stages

section Lines

variable {args : List String} {verbose trace : Bool} {command : Command} {files : Files}
  {stdin : List UInt8} {setting : Option String} {file : String} {config : Option String}
  {maxSteps : Option Nat} {dump : Bool} {job : Job}

end Lines

end RegisterMachine.CommandLine
