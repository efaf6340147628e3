import RegisterMachine.Text.Quoted
import RegisterMachine.Value
import RegisterMachine.Opcode

/-!
# Operands

The literal operands of an instruction. An operand that names a register or a host slot is an
integer that is not negative; `Operand.ofIndex` builds one from a word by its bits, and
`Operand.index?` reads it back. The sign tells the words that do not survive: an index of `2 ^ 63`
or more becomes a negative integer, which no longer reads as an index.
-/

namespace RegisterMachine

/-- An operand as written in a program. A register or a host slot is a plain integer here, and only
the operation tells what it is meant as. -/
inductive Operand
  | int (n : Int64)
  | bool (b : Bool)
  | text (s : String)
  | address (target : UInt64)
  deriving DecidableEq, Repr

/-- The places of an instruction that an operand can be missing from or unfit for. -/
inductive Field
  | arg1
  | arg2
  | target
  deriving DecidableEq, Repr

def Field.name : Field → String
  | .arg1 => "arg1"
  | .arg2 => "arg2"
  | .target => "target"

namespace Operand

def ofIndex (index : UInt64) : Operand :=
  .int index.toInt64

/-- The index that an operand names. A negative integer names none, and that is what a word of `2 ^
63` or more has become by `ofIndex`. -/
def index? : Operand → Option UInt64
  | .int n => if 0 ≤ n then some n.toUInt64 else none
  | _ => none

def toValue : Operand → Value
  | .int n => .number n
  | .bool b => .boolean b
  | .text s => .text s
  | .address target => .address target

/-- What a message shows of an operand: a text is quoted, an address marked. -/
def display : Operand → String
  | .int n => Text.ofInt n.toInt
  | .bool b => if b then "true" else "false"
  | .text s => Text.quote s
  | .address target => "@" ++ Text.ofNat target.toNat

end Operand

end RegisterMachine
