import RegisterMachine.Registers
import RegisterMachine.Stack
import RegisterMachine.Config
import RegisterMachine.Host.Table

/-!
# The machine

A machine is its `Core`, which instructions work on, together with the program, the limits, the
world outside, and the account of the run: whether it still goes on and how many instructions it has
executed. `fp` is where the current frame starts on the data stack: what lies below belongs to the
caller.
-/

namespace RegisterMachine

/-- The part of a machine that its instructions change. It stands alone, so that what an instruction
looks up and changes can be said without a program or a world. -/
structure Core where
  registers : Registers
  stack : DataStack := {}
  calls : CallStack := {}
  fp : Nat := 0
  pc : Nat := 0
  deriving DecidableEq, Repr

inductive Status
  | running
  | halted (reason : Halt)
  deriving DecidableEq, Repr

def Status.name : Status → String
  | .running => "Running"
  | .halted reason => reason.name

/-- A machine, with host functions of memory `α` and a sink `τ`. Both are parameters, since one
machine runs against a script as well as on a terminal. -/
structure Machine (α τ : Type) where
  config : Config
  program : Program
  core : Core
  world : World α τ
  status : Status := .running
  steps : Nat := 0

variable {α τ : Type}

namespace Machine

def boot (config : Config) (program : Program) (world : World α τ) : Machine α τ where
  config := config
  program := program
  core := { registers := .ofCount config.registerCount }
  world := world

def isHalted (m : Machine α τ) : Bool := m.status ≠ .running

def current? (m : Machine α τ) : Option Instruction := m.program.fetch? m.core.pc

/-- The limit on the number of instructions, if it has been reached. All instructions since the
machine was built count, those of single steps included. -/
def spentBudget? (m : Machine α τ) : Option Nat :=
  m.config.maxSteps.filter (· ≤ m.steps)

/-- The machine with the next instruction counted: it is executed from here, and a fault leaves it
counted. -/
def advance (m : Machine α τ) : Machine α τ :=
  { m with core := { m.core with pc := m.core.pc + 1 }, steps := m.steps + 1 }

end Machine

end RegisterMachine
