import RegisterMachine.Machine.Basic

/-!
# Fetching and checking

What an instruction looks up before it changes anything, and the checks that it makes on the way. A
look-up is a function of the core with a value or a fault: it has no way to change the machine, so
that all changes are the business of the handlers. In general an operand is fetched before the next
one is looked at.
-/

namespace RegisterMachine

namespace Core

def lift {β : Type} (x : Except InstructionError β) : Except Error β :=
  x.mapError .instruction

def arg1 (c : Core) (i : Instruction) (op : Opcode) : Except Error Value := do
  c.registers.get (← lift (i.arg1Index op)).toNat

def arg2 (c : Core) (i : Instruction) (op : Opcode) : Except Error Value := do
  c.registers.get (← lift (i.arg2Index op)).toNat

def target (c : Core) (i : Instruction) (op : Opcode) : Except Error Nat := do
  let t ← lift (i.targetIndex op)
  c.registers.check t.toNat
  .ok t.toNat

def numbers (c : Core) (i : Instruction) (op : Opcode) : Except Error (Int64 × Int64) := do
  let lhs ← lift (i.arg1Index op)
  let rhs ← lift (i.arg2Index op)
  c.registers.numbers lhs.toNat rhs.toNat op

/-- The sum of two numbers, if it is a number. It is taken among the integers, so that an overflow
is a sum out of range. -/
def sum (a b : Int64) : Except Error Int64 :=
  match Text.toInt64? (a.toInt + b.toInt) with
  | some n => .ok n
  | none => .error .arithmeticOverflow

/-- The values of a list of registers, read from the first on: of several that are not there, the
first is reported. -/
def gather (c : Core) : List UInt64 → Except Error (List Value)
  | [] => .ok []
  | index :: rest => do
    let v ← c.registers.get index.toNat
    let vs ← c.gather rest
    .ok (v :: vs)

/-- Fails unless the current frame holds a value: what lies below the frame pointer belongs to the
caller, so that it is not the stack that has to be non-empty, but its part above. -/
def checkFrame (c : Core) : Except Error Unit :=
  if c.stack.size ≤ c.fp then .error .stackUnderflow else .ok ()

def checkCaller (c : Core) : Except Error Unit :=
  if c.calls.depth = 0 then .error .callStackUnderflow else .ok ()

/-- Fails unless so many arguments are on the stack. It is the whole stack that counts, also what
belongs to the caller's caller. -/
def checkArguments (c : Core) (argCount : Nat) : Except Error Unit :=
  if c.stack.size < argCount then .error .stackUnderflow else .ok ()

end Core

namespace Machine

variable {α τ : Type}

def checkBudget (m : Machine α τ) : Except Error Unit :=
  match m.spentBudget? with
  | some limit => .error (.stepLimitExceeded limit)
  | none => .ok ()

def checkDepth (m : Machine α τ) : Except Error Unit :=
  match m.config.maxCallDepth.filter (· ≤ m.core.calls.depth) with
  | some limit => .error (.callDepthExceeded limit)
  | none => .ok ()

end Machine

end RegisterMachine
