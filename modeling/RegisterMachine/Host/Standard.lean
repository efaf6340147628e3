import RegisterMachine.Host.InputOutput

/-!
# The standard host functions

Programs expect two host functions: one that asks for input at place 0, and one that prints at
place 1. `Standard.table` lists them, and `Standard.environment` says how they act, given how the
input does.
-/

namespace RegisterMachine

/-- The memory of a standard host function: that of the input, or nothing. It is one type, since the
functions of a table have memories of one type. -/
inductive Standard (ι : Type)
  | input (memory : ι)
  | printer
  deriving DecidableEq, Repr

def promptIndex : Nat := 0

def printIndex : Nat := 1

def printName : String := "print"

def standardCount : Nat := 2

namespace Standard

variable {ι τ : Type}

def table (input : ι) : HostTable (Standard ι) :=
  ⟨#[⟨promptName, .input input⟩, ⟨printName, .printer⟩]⟩

/-- How the standard host functions act, given how the input does. The printer writes to the sink of
the machine, which is where print instructions write to as well. -/
def environment (ask : List Value → ι → τ → Reply × ι × τ) (isConsole : Bool)
    (writeLine : String → τ → Except Error Unit × τ) : Environment (Standard ι) τ where
  call args memory sink :=
    match memory with
    | .input memory =>
      let (reply, memory, sink) := ask args memory sink
      (reply, .input memory, sink)
    | .printer =>
      let (result, sink) := writeLine (printedLine args) sink
      (result.map fun _ => none, .printer, sink)
  isConsole
    | .input _ => isConsole
    | .printer => false
  writeLine := writeLine

def scripted : Environment (Standard Script) Transcript :=
  environment (fun args s t => let (reply, s) := s.call args; (reply, s, t)) false
    Transcript.writeLine

def console : Environment (Standard Console) Transcript :=
  environment (fun args c t => let (reply, c) := c.call args; (reply, c, t)) true
    Transcript.writeLine

def terminal : Environment (Standard Input) Terminal :=
  environment Terminal.call true Terminal.writeLine

end Standard

end RegisterMachine
