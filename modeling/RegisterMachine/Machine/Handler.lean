import RegisterMachine.Machine.Fetch

/-!
# Handlers

How an instruction is executed: in place, one look-up or change after the other. A handler works on
the machine itself, and what it has changed before it fails stays changed, since nothing is ever put
back. That a failing instruction leaves the registers and the stacks as they were is therefore not
in the type of a handler: it depends on the order of the work, in which all that can fail has to
come before the first change, or has to be unable to fail by then.

Some operations can fail where they stand and never do. A pop writes its register after it has taken
the value off the stack, a return cuts the stack and takes the frame off after it has taken the
value, and a host call writes its target when the host function has already run.
-/

namespace RegisterMachine

variable {α τ β : Type}

/-- A machine in the middle of an instruction, and what it has reported of it so far. -/
structure Working (α τ : Type) where
  machine : Machine α τ
  events : List Event := []

def Working.mapCore (f : Core → Core) (s : Working α τ) : Working α τ :=
  { s with machine := { s.machine with core := f s.machine.core } }

def Working.settle (s : Working α τ) (r : World.Response α τ β) : Working α τ :=
  { machine := { s.machine with world := r.world }, events := s.events ++ r.events }

/-- A part of the work on an instruction. In contrast to a function that returns either a new
machine or an error, a handler that fails hands over the machine as it has left it. -/
abbrev Handler (α τ : Type) := EStateM Error (Working α τ)

namespace Handler

/-! ## Pieces -/

/-- Looks something up. What is looked up is a function of the machine and gives back a value or a
fault, so that it has no way to change anything. -/
def consult (f : Machine α τ → Except Error β) : Handler α τ β := fun s =>
  match f s.machine with
  | .ok b => .ok b s
  | .error e => .error e s

def demand (x : Except InstructionError β) : Handler α τ β :=
  consult fun _ => Core.lift x

def alter (f : Core → Core) : Handler α τ Unit := modify (Working.mapCore f)

def report (f : Core → Event) : Handler α τ Unit :=
  modify fun s => { s with events := s.events ++ [f s.machine.core] }

/-- Turns to the world. It moves on whether it answers with a result or with an error, and it may
have something to report in both cases. -/
def ask (f : World α τ → World.Response α τ β) : Handler α τ β := fun s =>
  let r := f s.machine.world
  match r.result with
  | .ok b => .ok b (s.settle r)
  | .error e => .error e (s.settle r)

def setRegister (index : Nat) (v : Value) : Handler α τ Unit := do
  let registers ← consult fun m => m.core.registers.set index v
  alter fun c => { c with registers := registers }

def popValue : Handler α τ Value := do
  let (v, stack) ← consult fun m => m.core.stack.pop
  alter fun c => { c with stack := stack }
  return v

/-- Drops everything above the frame pointer, or fails if the stack does not reach up to it. A
return has looked at its frame by then, so that it does. -/
def truncate : Handler α τ Unit := do
  let stack ← consult fun m => m.core.stack.truncate m.core.fp
  alter fun c => { c with stack := stack }

def popFrame : Handler α τ Frame := do
  let (frame, calls) ← consult fun m => m.core.calls.pop
  alter fun c => { c with calls := calls }
  return frame

def jump (target : Nat) : Handler α τ Unit :=
  alter fun c => { c with pc := target }

/-! ## Instructions -/

/-- Puts a value in the register of the target. The target is looked at last, so that a fault in
another operand is reported before one in it. -/
def result (i : Instruction) (op : Opcode) (v : Value) : Handler α τ Unit := do
  let t ← demand (i.targetIndex op)
  setRegister t.toNat v

/-- A pop: the register and the frame are checked, then the value is taken off the stack, then the
register is written. -/
def pop (i : Instruction) (op : Opcode) : Handler α τ Unit := do
  let t ← consult fun m => m.core.target i op
  consult fun m => m.core.checkFrame
  let v ← popValue
  setRegister t v

/-- A jump that is taken if the register in the first operand holds just that truth value; any
other value, of whatever kind, lets the machine go on. -/
def jumpIf (wanted : Bool) (i : Instruction) (op : Opcode) : Handler α τ Unit := do
  let t ← demand (i.targetIndex op)
  let v ← consult fun m => m.core.arg1 i op
  if v = .boolean wanted then jump t.toNat

/-- A call: saves the frame of the caller and opens one over the arguments on top of the stack. -/
def callFunc (i : Instruction) (op : Opcode) : Handler α τ Unit := do
  let register ← demand (i.arg1Index op)
  match ← consult fun m => m.core.registers.get register.toNat with
  | .address address =>
    let argCount := i.argCount.toNat
    consult fun m => m.core.checkArguments argCount
    consult Machine.checkDepth
    alter fun c => { c with calls := c.calls.push ⟨c.pc, c.fp⟩ }
    alter fun c => { c with fp := c.stack.size - argCount }
    jump address.toNat
    report fun c => .called address.toNat argCount c.fp c.calls.depth
  | _ => throw (.invalidFunctionAddress register.toNat)

/-- A return: takes the returned value off, drops the frame, restores that of the caller and hands
the value back on top of it. -/
def ret : Handler α τ Unit := do
  consult fun m => m.core.checkCaller
  consult fun m => m.core.checkFrame
  let v ← popValue
  truncate
  let frame ← popFrame
  alter fun c => { c with fp := frame.savedFp }
  jump frame.returnPc
  alter fun c => { c with stack := c.stack.push v }
  report fun c => .returned c.pc c.fp c.calls.depth

/-- A host call. The target, if there is one, is checked before the host function is called and
looked at again when the reply is put there. -/
def callMethod (E : Environment α τ) (i : Instruction) (op : Opcode) : Handler α τ Unit := do
  let register ← demand (i.arg1Index op)
  match ← consult fun m => m.core.registers.get register.toNat with
  | .host index =>
    let args ← consult fun m => m.core.gather i.args
    if let some t := i.target then
      consult fun m => m.core.registers.check t.toNat
    let reply ← ask fun w => w.invoke E index.toNat args
    match i.target, reply with
    | some t, some v => setRegister t.toNat v
    | _, _ => return
  | _ => throw (.notCallable register.toNat)

/-- Carries an operation out. What stands here in full looks everything up before it changes
anything; the others have a handler of their own. -/
def operate (E : Environment α τ) (i : Instruction) (op : Opcode) : Handler α τ Unit :=
  match op with
  | .store => do
    let o ← demand (i.literal op)
    result i op o.toValue
  | .set => do
    let v ← consult fun m => m.core.arg1 i op
    result i op v
  | .add => do
    let (a, b) ← consult fun m => m.core.numbers i op
    let n ← consult fun _ => Core.sum a b
    result i op (.number n)
  | .equals => do
    let a ← consult fun m => m.core.arg1 i op
    let b ← consult fun m => m.core.arg2 i op
    match a.equals? b with
    | some equal => result i op (.boolean equal)
    | none => throw (.typeMismatch op .comparable a.kind b.kind)
  | .lessThan => do
    let (a, b) ← consult fun m => m.core.numbers i op
    result i op (.boolean (a < b))
  | .lessThanEquals => do
    let (a, b) ← consult fun m => m.core.numbers i op
    result i op (.boolean (a ≤ b))
  | .push => do
    let v ← consult fun m => m.core.arg1 i op
    alter fun c => { c with stack := c.stack.push v }
  | .pop => pop i op
  | .jump => do
    let t ← demand (i.targetIndex op)
    jump t.toNat
  | .jumpIfTrue => jumpIf true i op
  | .jumpIfFalse => jumpIf false i op
  | .callFunc => callFunc i op
  | .ret => ret
  | .loadGlobal => do
    let index ← demand (i.arg1Index op)
    let host ← consult fun m => m.world.hosts.resolve index.toNat
    result i op (.host (.ofNat host))
  | .callMethod => callMethod E i op
  | .print => do
    let v ← consult fun m => m.core.arg1 i op
    ask fun w => w.writeLine E v.display
  | .exit => modify fun s => { s with machine := { s.machine with status := .halted .exit } }

def dispatch (E : Environment α τ) (i : Instruction) : Handler α τ Unit := do
  let op ← demand i.decode
  report fun c => .dispatched (c.pc - 1) op
  operate E i op

/-- Executes an instruction, if there is budget for it: it is counted first, and stays counted when
it fails. -/
def execute (E : Environment α τ) (i : Instruction) : Handler α τ Unit := do
  consult Machine.checkBudget
  modify fun s => { s with machine := s.machine.advance }
  dispatch E i

end Handler

end RegisterMachine
