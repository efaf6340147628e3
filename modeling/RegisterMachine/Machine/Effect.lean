import RegisterMachine.Machine.Step

/-!
# Effects of instructions

What an instruction comes down to, as one value. It is resolved against the core: operands are
fetched and checked, and it is either refused or has an `Effect`, which carries all that it needs.
A change of the core that has got that far cannot fail any more, and only the world can.

The handlers do not work this way, but execution by effect is easier to reason about, and a terminal
uses it to see a question coming before the step that asks it. Resolving follows the order in which
the handlers look things up, since that decides between two faults.
-/

namespace RegisterMachine

/-- A change of the core. Each carries all that it needs, so that nothing is left to be looked up,
and to fail, when it is applied. -/
inductive Update
  | stay
  | write (register : Nat) (value : Value)
  | push (value : Value)
  | pop (register : Nat) (value : Value)
  | jump (target : Nat)
  | call (address argCount : Nat)
  | ret (value : Value) (frame : Frame)
  deriving DecidableEq, Repr

/-- What an instruction comes down to when its operands have been looked up: a change of the core,
something to ask of the world, or the end. -/
inductive Effect
  | update (u : Update)
  | print (line : String)
  | invoke (host : Nat) (args : List Value) (target : Option Nat)
  | exit
  deriving DecidableEq, Repr

namespace Core

/-- Carries a change out. A call saves the frame of the caller and opens one over its arguments; a
return drops the frame, whatever is left in it, and leaves the returned value in its place. -/
def apply (c : Core) : Update → Core
  | .stay => c
  | .write register value => { c with registers := c.registers.write register value }
  | .push value => { c with stack := c.stack.push value }
  | .pop register value =>
    { c with registers := c.registers.write register value, stack := c.stack.rest }
  | .jump target => { c with pc := target }
  | .call address argCount =>
    { c with
      calls := c.calls.push ⟨c.pc, c.fp⟩
      fp := c.stack.size - argCount
      pc := address }
  | .ret value frame =>
    { c with
      stack := (c.stack.bottom c.fp).push value
      calls := c.calls.rest
      fp := frame.savedFp
      pc := frame.returnPc }

def result (c : Core) (i : Instruction) (op : Opcode) (v : Value) : Except Error Effect := do
  let t ← c.target i op
  .ok (.update (.write t v))

def frameTop (c : Core) : Except Error Value :=
  if c.stack.size ≤ c.fp then .error .stackUnderflow else c.stack.top

def jumpIf (c : Core) (wanted : Bool) (i : Instruction) (op : Opcode) : Except Error Effect := do
  let t ← lift (i.targetIndex op)
  let v ← c.arg1 i op
  .ok (.update (if v = .boolean wanted then .jump t.toNat else .stay))

def callFunc (c : Core) (maxDepth : Option Nat) (i : Instruction) (op : Opcode) :
    Except Error Effect := do
  let register ← lift (i.arg1Index op)
  match ← c.registers.get register.toNat with
  | .address address =>
    if c.stack.size < i.argCount.toNat then .error .stackUnderflow
    else
      match maxDepth.filter (· ≤ c.calls.depth) with
      | some limit => .error (.callDepthExceeded limit)
      | none => .ok (.update (.call address.toNat i.argCount.toNat))
  | _ => .error (.invalidFunctionAddress register.toNat)

def ret (c : Core) : Except Error Effect := do
  let frame ← c.calls.top
  let v ← c.frameTop
  .ok (.update (.ret v frame))

def callMethod (c : Core) (i : Instruction) (op : Opcode) : Except Error Effect := do
  let register ← lift (i.arg1Index op)
  match ← c.registers.get register.toNat with
  | .host index =>
    let args ← c.gather i.args
    match i.target with
    | some t => c.registers.check t.toNat
    | none => .ok ()
    .ok (.invoke index.toNat args (i.target.map UInt64.toNat))
  | _ => .error (.notCallable register.toNat)

/-- Resolves an operation on a core, with a limit on the nesting of calls and a table of so many
host functions. It only looks things up, and all that can fail fails here. -/
def resolve (c : Core) (maxDepth : Option Nat) (hosts : Nat) (i : Instruction) (op : Opcode) :
    Except Error Effect :=
  match op with
  | .store => do
    let o ← lift (i.literal op)
    c.result i op o.toValue
  | .set => do
    let v ← c.arg1 i op
    c.result i op v
  | .add => do
    let (a, b) ← c.numbers i op
    let n ← sum a b
    c.result i op (.number n)
  | .equals => do
    let a ← c.arg1 i op
    let b ← c.arg2 i op
    match a.equals? b with
    | some equal => c.result i op (.boolean equal)
    | none => .error (.typeMismatch op .comparable a.kind b.kind)
  | .lessThan => do
    let (a, b) ← c.numbers i op
    c.result i op (.boolean (a < b))
  | .lessThanEquals => do
    let (a, b) ← c.numbers i op
    c.result i op (.boolean (a ≤ b))
  | .push => do
    let v ← c.arg1 i op
    .ok (.update (.push v))
  | .pop => do
    let t ← c.target i op
    let v ← c.frameTop
    .ok (.update (.pop t v))
  | .jump => do
    let t ← lift (i.targetIndex op)
    .ok (.update (.jump t.toNat))
  | .jumpIfTrue => c.jumpIf true i op
  | .jumpIfFalse => c.jumpIf false i op
  | .callFunc => c.callFunc maxDepth i op
  | .ret => c.ret
  | .loadGlobal => do
    let index ← lift (i.arg1Index op)
    if index.toNat < hosts then c.result i op (.host index)
    else .error (.unknownHostFunction index.toNat)
  | .callMethod => c.callMethod i op
  | .print => do
    let v ← c.arg1 i op
    .ok (.print v.display)
  | .exit => .ok .exit

end Core

namespace Machine

variable {α τ : Type}

/-- What there is to report about a change of the core, which has been carried out. -/
def updateEvents (c : Core) : Update → List Event
  | .call address argCount => [.called address argCount c.fp c.calls.depth]
  | .ret .. => [.returned c.pc c.fp c.calls.depth]
  | _ => []

/-- Puts what a host function gave back where it was asked for, if there is both a value and a
place. The place was checked when the call was resolved. -/
def receive (c : Core) (target : Option Nat) (reply : Option Value) : Core :=
  match target, reply with
  | some t, some v => c.apply (.write t v)
  | _, _ => c

/-- Carries an effect out. Only the world outside can still fail, and it stays as it has become by
then. -/
def perform (E : Environment α τ) (m : Machine α τ) : Effect → Outcome α τ
  | .update u =>
    let c := m.core.apply u
    ⟨{ m with core := c }, .ok (), updateEvents c u⟩
  | .print line =>
    let r := m.world.writeLine E line
    ⟨{ m with world := r.world }, r.result, r.events⟩
  | .invoke host args target =>
    let r := m.world.invoke E host args
    match r.result with
    | .ok reply =>
      ⟨{ m with core := receive m.core target reply, world := r.world }, .ok (), r.events⟩
    | .error e => ⟨{ m with world := r.world }, .error e, r.events⟩
  | .exit => ⟨{ m with status := .halted .exit }, .ok (), []⟩

def effect (m : Machine α τ) (i : Instruction) (op : Opcode) : Except Error Effect :=
  m.core.resolve m.config.maxCallDepth m.world.hosts.size i op

/-- Executes an instruction that stands at `pc` on a machine that has counted it, by its effect.
`Machine.step_eq` says that a step, whose handlers work in place, does the same. -/
def execute (E : Environment α τ) (m : Machine α τ) (pc : Nat) (i : Instruction) :
    Outcome α τ :=
  match i.decode with
  | .error e => m.fail pc i (.instruction e) []
  | .ok op =>
    let seen := .dispatched pc op
    match m.effect i op with
    | .error e => m.fail pc i e [seen]
    | .ok effect =>
      let o := m.perform E effect
      match o.result with
      | .ok () => { o with events := seen :: o.events }
      | .error e => o.machine.fail pc i e (seen :: o.events)

end Machine

end RegisterMachine
