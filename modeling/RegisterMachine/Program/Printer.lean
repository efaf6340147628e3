import RegisterMachine.Instruction
import RegisterMachine.Json.Printer

/-!
# Programs as text

A program is written as a list of records, one member to a line. A field with its default value is
left out, and an operand is written as the literal it is, with an address in a record of its own to
tell it from a number.
-/

namespace RegisterMachine

def Json.int (n : Int) : Json := .number (.int n)

def Json.word (w : UInt64) : Json := .int w.toNat

def Operand.toJson : Operand → Json
  | .int n => .int n.toInt
  | .bool b => .bool b
  | .text s => .text s
  | .address target => .record [("addr", .word target)]

namespace Instruction

/-- The fields that are written, in their order. One that has its default value is left out; the tag
has no default and is always there. -/
def fields (i : Instruction) : List (String × Json) :=
  ("opcode", .text i.opcode) ::
    (i.arg1.toList.map fun o => ("arg1", o.toJson)) ++
    (i.arg2.toList.map fun o => ("arg2", o.toJson)) ++
    (i.target.toList.map fun t => ("target", .word t)) ++
    (if i.args.isEmpty then [] else [("args", .list (i.args.map .word))]) ++
    (if i.argCount = 0 then [] else [("argCount", .word i.argCount)])

def toJson (i : Instruction) : Json := .record i.fields

end Instruction

namespace Program

def toJson (p : Program) : Json :=
  .list (p.instructions.toList.map Instruction.toJson)

def toText (p : Program) : String := p.toJson.toPrettyText

end Program

end RegisterMachine
