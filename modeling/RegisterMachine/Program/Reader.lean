import RegisterMachine.Program.Check
import RegisterMachine.Json.Reader

/-!
# Programs from text

A program is a list of instructions, and an instruction is a record in any order of its keys, or a
list of its fields in their fixed order with the last ones left out. Keys that name no field are
skipped. The text is read from front to back and the first fault counts: a value of the wrong kind
where it starts, a repeated key where it is met again, a missing tag where the record closes.

An operand is read whole before it is looked at, so a fault inside it comes first.
-/

namespace RegisterMachine

/-- The address in a record of operand fields: there has to be exactly one. -/
def Operand.addressOf? (fields : List (String × Json)) : Option Operand :=
  match fields.filter fun f => f.1 == "addr" with
  | [(_, .number (.int n))] => (Text.toWord? n).map .address
  | _ => none

/-- The operand that a JSON value spells, told by the shape of the value alone: a record is an
address, and a number has to be a signed word. -/
def Operand.ofJson? : Json → Option Operand
  | .number (.int n) => (Text.toInt64? n).map .int
  | .bool b => some (.bool b)
  | .text s => some (.text s)
  | .record fields => addressOf? fields
  | _ => none

namespace Instruction

/-- The fields of an instruction: the keys of its record, and the places of its list. Their values
are read in the same way in both forms. -/
inductive Slot
  | opcode
  | arg1
  | arg2
  | target
  | args
  | argCount
  deriving DecidableEq, Repr

namespace Slot

def all : List Slot := [.opcode, .arg1, .arg2, .target, .args, .argCount]

def name : Slot → String
  | .opcode => "opcode"
  | .arg1 => "arg1"
  | .arg2 => "arg2"
  | .target => "target"
  | .args => "args"
  | .argCount => "argCount"

def ofName? (key : String) : Option Slot :=
  all.find? fun slot => slot.name == key

@[simp] theorem ofName?_name (slot : Slot) : ofName? slot.name = some slot := by
  cases slot <;> decide

end Slot

/-- What has been read of an instruction: a field is there once it has been met, even where it was
null. -/
structure Draft where
  opcode : Option String := none
  arg1 : Option (Option Operand) := none
  arg2 : Option (Option Operand) := none
  target : Option (Option UInt64) := none
  args : Option (List UInt64) := none
  argCount : Option UInt64 := none
  deriving DecidableEq, Repr

namespace Draft

def has (d : Draft) : Slot → Bool
  | .opcode => d.opcode.isSome
  | .arg1 => d.arg1.isSome
  | .arg2 => d.arg2.isSome
  | .target => d.target.isSome
  | .args => d.args.isSome
  | .argCount => d.argCount.isSome

/-- The instruction of a draft; only the tag has no default. A field that was null comes to the same
as one that was not met. -/
def finish (d : Draft) : Except LoadError Instruction :=
  match d.opcode with
  | none => .error .missingOpcode
  | some opcode => .ok {
      opcode := opcode
      arg1 := d.arg1.join
      arg2 := d.arg2.join
      target := d.target.join
      args := d.args.getD []
      argCount := d.argCount.getD 0 }

end Draft

open Json (Token)

def defect {α : Type} (x : Except Json.Defect α) : Except LoadError α :=
  x.mapError .defect

def mismatch {α : Type} (x : Except Json.Mismatch α) : Except LoadError α :=
  x.mapError .mismatch

def readWord (ts : List Token) : Except LoadError (UInt64 × List Token) := do
  let (found, ts) ← defect (Json.head ts)
  let w ← mismatch (found.toWord .size)
  .ok (w, ts)

def readTag (ts : List Token) : Except LoadError (String × List Token) := do
  let (found, ts) ← defect (Json.head ts)
  let s ← mismatch found.toText
  .ok (s, ts)

def readArgs (fuel : Nat) (ts : List Token) : Except LoadError (List UInt64 × List Token) := do
  let (found, ts) ← defect (Json.head ts)
  match found with
  | .list => Json.readList .defect readWord fuel ts
  | found => .error (.mismatch (.type found .sequence))

/-- An operand, with so much room for brackets. It is read as a value first, so that a fault of the
text comes before a value of the wrong kind. -/
def readOperand (fuel room : Nat) (ts : List Token) :
    Except LoadError (Operand × List Token) := do
  let (v, ts) ← defect (Json.read fuel room ts)
  match Operand.ofJson? v with
  | some o => .ok (o, ts)
  | none => .error .operandMismatch

def readOptional {α : Type} (read : List Token → Except LoadError (α × List Token)) :
    List Token → Except LoadError (Option α × List Token)
  | .null :: ts => .ok (none, ts)
  | ts => (read ts).map fun (a, ts) => (some a, ts)

/-- How deep brackets may nest in an operand of a program: the list of the program and the record of
the instruction are open around it. -/
def operandDepth : Nat := Json.depth - 2

def readSlot (fuel : Nat) (d : Draft) (slot : Slot) (ts : List Token) :
    Except LoadError (Draft × List Token) :=
  match slot with
  | .opcode => do
    let (s, ts) ← readTag ts
    .ok ({ d with opcode := some s }, ts)
  | .arg1 => do
    let (o, ts) ← readOptional (readOperand fuel operandDepth) ts
    .ok ({ d with arg1 := some o }, ts)
  | .arg2 => do
    let (o, ts) ← readOptional (readOperand fuel operandDepth) ts
    .ok ({ d with arg2 := some o }, ts)
  | .target => do
    let (t, ts) ← readOptional readWord ts
    .ok ({ d with target := some t }, ts)
  | .args => do
    let (args, ts) ← readArgs fuel ts
    .ok ({ d with args := some args }, ts)
  | .argCount => do
    let (n, ts) ← readWord ts
    .ok ({ d with argCount := some n }, ts)

/-- A field of the record form, from behind its key. A repeated key is refused before its colon is
looked at, and a key that names no field has its value skipped. -/
def readField (fuel : Nat) (d : Draft) (key : String) (ts : List Token) :
    Except LoadError (Draft × List Token) :=
  match Slot.ofName? key with
  | some slot =>
    if d.has slot then .error (.duplicateField slot.name)
    else do
      let ts ← defect (Json.colon ts)
      readSlot fuel d slot ts
  | none => do
    let ts ← defect (Json.colon ts)
    let ts ← defect (Json.skipValue ts)
    .ok (d, ts)

def closeList : List Token → Except LoadError (List Token)
  | [] => .error (.defect .endOfInput)
  | .listClose :: ts => .ok ts
  | _ :: _ => .error (.defect .malformed)

/-- The fields of the list form from the given ones on. The list may close behind any of them, which
leaves the others at their defaults. -/
def readSlots (fuel : Nat) : List Slot → Draft → List Token →
    Except LoadError (Draft × List Token)
  | [], d, ts => (closeList ts).map fun ts => (d, ts)
  | [slot], d, ts => do
    let (d, ts) ← readSlot fuel d slot ts
    (closeList ts).map fun ts => (d, ts)
  | slot :: rest, d, ts => do
    let (d, ts) ← readSlot fuel d slot ts
    let (more, ts) ← defect (Json.listNext ts)
    if more then readSlots fuel rest d ts else .ok (d, ts)

def readListForm (fuel : Nat) (ts : List Token) : Except LoadError (Draft × List Token) := do
  let (more, ts) ← defect (Json.listStart ts)
  if more then readSlots fuel Slot.all {} ts else .error .emptyRecord

def read (fuel : Nat) (ts : List Token) : Except LoadError (Instruction × List Token) := do
  let (found, ts) ← defect (Json.head ts)
  let (d, ts) ←
    match found with
    | .record => Json.readRecord .defect (readField fuel) fuel {} ts
    | .list => readListForm fuel ts
    | found => .error (.mismatch (.type found .instruction))
  let i ← d.finish
  .ok (i, ts)

end Instruction

namespace Program

def ofTokens (ts : List Json.Token) : Except LoadError Program := do
  let fuel := ts.length
  let (found, ts) ← Instruction.defect (Json.head ts)
  match found with
  | .list =>
    let (is, ts) ← Json.readList .defect (Instruction.read fuel) fuel ts
    Instruction.defect (Json.finish ts)
    .ok (ofList is)
  | found => .error (.mismatch (.type found .sequence))

/-- The program that a text spells. Tags are kept as they are; an unknown one only matters when it
is reached. -/
def ofText (s : String) : Except LoadError Program :=
  ofTokens (Json.Token.scan s.toList)

def strict (registers hosts : Nat) (p : Program) : Except LoadError Program :=
  match p.check registers hosts with
  | [] => .ok p
  | first :: rest => .error (.rejected first (rest.length + 1))

def ofTextStrict (s : String) (registers hosts : Nat) : Except LoadError Program := do
  let p ← ofText s
  p.strict registers hosts

end Program

def Operand.ofText (s : String) : Except LoadError Operand := do
  let ts := Json.Token.scan s.toList
  let (o, ts) ← Instruction.readOperand ts.length Json.depth ts
  Instruction.defect (Json.finish ts)
  .ok o

end RegisterMachine
