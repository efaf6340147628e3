import RegisterMachine.Operand

/-!
# Instructions and programs

An instruction is a record of a tag and optional operands; which of them an operation needs is not
part of its shape. The accessors fetch an operand and say what is wrong with it, and both the
structural check and the machine go through them, so the two speak of a fault in the same words.

A program is a sequence of instructions, addressed from zero. The machine stops where no instruction
is left to fetch.
-/

namespace RegisterMachine

/-- An instruction as stored in a program. Its tag is any text, and any operand may be absent: what
an operation requires comes out when the instruction is checked or executed. -/
structure Instruction where
  opcode : String
  arg1 : Option Operand := none
  arg2 : Option Operand := none
  target : Option UInt64 := none
  args : List UInt64 := []
  argCount : UInt64 := 0
  deriving DecidableEq, Repr

/-- What can be wrong with an instruction by itself, whatever machine runs it: the part that the
problems of a check and the errors of a machine have in common. -/
inductive InstructionError
  | unknownOpcode (tag : String)
  | missingOperand (op : Opcode) (field : Field)
  | invalidOperand (op : Opcode) (field : Field) (found : Operand)
  deriving DecidableEq, Repr

def InstructionError.message : InstructionError → String
  | .unknownOpcode tag => "unknown opcode: " ++ tag
  | .missingOperand op field =>
    op.mnemonic ++ " is missing its `" ++ field.name ++ "` operand"
  | .invalidOperand op field found =>
    op.mnemonic ++ " expects an index in `" ++ field.name ++ "`, got " ++ found.display

namespace Instruction

def decode (i : Instruction) : Except InstructionError Opcode :=
  match Opcode.ofMnemonic? i.opcode with
  | some op => .ok op
  | none => .error (.unknownOpcode i.opcode)

def operand (op : Opcode) (field : Field) : Option Operand → Except InstructionError Operand
  | some o => .ok o
  | none => .error (.missingOperand op field)

def operandIndex (op : Opcode) (field : Field) (o : Option Operand) :
    Except InstructionError UInt64 := do
  let found ← operand op field o
  match found.index? with
  | some index => .ok index
  | none => .error (.invalidOperand op field found)

def literal (i : Instruction) (op : Opcode) : Except InstructionError Operand :=
  operand op .arg1 i.arg1

def arg1Index (i : Instruction) (op : Opcode) : Except InstructionError UInt64 :=
  operandIndex op .arg1 i.arg1

def arg2Index (i : Instruction) (op : Opcode) : Except InstructionError UInt64 :=
  operandIndex op .arg2 i.arg2

def targetIndex (i : Instruction) (op : Opcode) : Except InstructionError UInt64 :=
  match i.target with
  | some t => .ok t
  | none => .error (.missingOperand op .target)

/-! ## Construction -/

def ofOpcode (op : Opcode) : Instruction := { opcode := op.mnemonic }

def store (literal : Operand) (target : UInt64) : Instruction :=
  { ofOpcode .store with arg1 := some literal, target := some target }

def set (source target : UInt64) : Instruction :=
  { ofOpcode .set with arg1 := some (.ofIndex source), target := some target }

def binary (op : Opcode) (lhs rhs target : UInt64) : Instruction :=
  { ofOpcode op with
    arg1 := some (.ofIndex lhs), arg2 := some (.ofIndex rhs), target := some target }

def add (lhs rhs target : UInt64) : Instruction := binary .add lhs rhs target

def equals (lhs rhs target : UInt64) : Instruction := binary .equals lhs rhs target

def lessThan (lhs rhs target : UInt64) : Instruction := binary .lessThan lhs rhs target

def lessThanEquals (lhs rhs target : UInt64) : Instruction :=
  binary .lessThanEquals lhs rhs target

def push (source : UInt64) : Instruction :=
  { ofOpcode .push with arg1 := some (.ofIndex source) }

def pop (target : UInt64) : Instruction :=
  { ofOpcode .pop with target := some target }

def jump (target : UInt64) : Instruction :=
  { ofOpcode .jump with target := some target }

def jumpIfTrue (condition target : UInt64) : Instruction :=
  { ofOpcode .jumpIfTrue with arg1 := some (.ofIndex condition), target := some target }

def jumpIfFalse (condition target : UInt64) : Instruction :=
  { ofOpcode .jumpIfFalse with arg1 := some (.ofIndex condition), target := some target }

def callFunc (register argCount : UInt64) : Instruction :=
  { ofOpcode .callFunc with arg1 := some (.ofIndex register), argCount := argCount }

def ret : Instruction := ofOpcode .ret

def loadGlobal (index target : UInt64) : Instruction :=
  { ofOpcode .loadGlobal with arg1 := some (.ofIndex index), target := some target }

def callMethod (register : UInt64) (args : List UInt64) (target : Option UInt64) : Instruction :=
  { ofOpcode .callMethod with
    arg1 := some (.ofIndex register), args := args, target := target }

def print (source : UInt64) : Instruction :=
  { ofOpcode .print with arg1 := some (.ofIndex source) }

def exit : Instruction := ofOpcode .exit

@[simp] theorem decode_ofOpcode (op : Opcode) : (ofOpcode op).decode = .ok op := by
  simp [decode, ofOpcode]

end Instruction

/-! ## Programs -/

structure Program where
  instructions : Array Instruction
  deriving DecidableEq, Repr

namespace Program

def ofList (is : List Instruction) : Program := ⟨is.toArray⟩

def length (p : Program) : Nat := p.instructions.size

def fetch? (p : Program) (pc : Nat) : Option Instruction := p.instructions[pc]?

/-- A program followed by another. -/
instance : Append Program := ⟨fun p q => ⟨p.instructions ++ q.instructions⟩⟩

@[simp] theorem length_append (p q : Program) : (p ++ q).length = p.length + q.length := by
  show (p.instructions ++ q.instructions).size = _
  simp [length]

/-- Nothing is fetched exactly from the end of the program on. -/
@[simp] theorem fetch?_eq_none_iff (p : Program) (pc : Nat) :
    p.fetch? pc = none ↔ p.length ≤ pc := by
  simp [fetch?, length]

end Program

end RegisterMachine
