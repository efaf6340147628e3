import RegisterMachine.Error

/-!
# The structural check

What can be told of a program without running it: tags that name no operation, operands that are
missing or no index, registers outside the register file, jumps past the end, and host slots outside
the host table. An instruction is looked at on its own and reported at most once, for the first
problem in the order of its operands.

A jump to the end of the program is no problem: it stops the machine.
-/

namespace RegisterMachine

/-- The sizes that a program is checked against. The check sees nothing else of a machine, so that
it can be made before there is one. -/
structure Bounds where
  registers : Nat
  hosts : Nat
  length : Nat
  deriving DecidableEq, Repr

namespace Bounds

def lift {α : Type} (x : Except InstructionError α) : Except Problem α :=
  x.mapError .instruction

def register (b : Bounds) (index : UInt64) : Except Problem Unit :=
  if index.toNat < b.registers then .ok () else .error (.register index.toNat b.registers)

/-- A jump may go to the end of the program, but not past it. -/
def jump (b : Bounds) (target : UInt64) : Except Problem Unit :=
  if target.toNat ≤ b.length then .ok () else .error (.jump target.toNat b.length)

def host (b : Bounds) (index : UInt64) : Except Problem Unit :=
  if index.toNat < b.hosts then .ok () else .error (.host index.toNat)

def eachRegister (b : Bounds) : List UInt64 → Except Problem Unit
  | [] => .ok ()
  | index :: rest => do
    b.register index
    b.eachRegister rest

def arg1 (b : Bounds) (i : Instruction) (op : Opcode) : Except Problem Unit := do
  b.register (← lift (i.arg1Index op))

def arg2 (b : Bounds) (i : Instruction) (op : Opcode) : Except Problem Unit := do
  b.register (← lift (i.arg2Index op))

def target (b : Bounds) (i : Instruction) (op : Opcode) : Except Problem Unit := do
  b.register (← lift (i.targetIndex op))

/-- The operands of an instruction, in the order of the operation. The first problem ends the check
of the instruction, so that the order decides which one is reported. -/
def operands (b : Bounds) (i : Instruction) (op : Opcode) : Except Problem Unit :=
  match op with
  | .store => do
    let _ ← lift (i.literal op)
    b.target i op
  | .set => do
    b.arg1 i op
    b.target i op
  | .add | .equals | .lessThan | .lessThanEquals => do
    b.arg1 i op
    b.arg2 i op
    b.target i op
  | .push | .print | .callFunc => b.arg1 i op
  | .pop => b.target i op
  | .jump => do b.jump (← lift (i.targetIndex op))
  | .jumpIfTrue | .jumpIfFalse => do
    b.arg1 i op
    b.jump (← lift (i.targetIndex op))
  | .loadGlobal => do
    b.host (← lift (i.arg1Index op))
    b.target i op
  | .callMethod => do
    b.arg1 i op
    b.eachRegister i.args
    match i.target with
    | some t => b.register t
    | none => .ok ()
  | .ret | .exit => .ok ()

def instruction (b : Bounds) (i : Instruction) : Except Problem Unit := do
  let op ← lift i.decode
  b.operands i op

def problem? (b : Bounds) (i : Instruction) : Option Problem :=
  match b.instruction i with
  | .ok () => none
  | .error p => some p

end Bounds

namespace Program

def bounds (p : Program) (registers hosts : Nat) : Bounds := ⟨registers, hosts, p.length⟩

/-- The diagnostics of a program, for so many registers and host functions: in the order of its
instructions, and at most one for each. -/
def check (p : Program) (registers hosts : Nat) : List Diagnostic :=
  p.instructions.toList.zipIdx.filterMap fun (i, pc) =>
    ((p.bounds registers hosts).problem? i).map fun problem => ⟨pc, problem⟩

end Program

end RegisterMachine
