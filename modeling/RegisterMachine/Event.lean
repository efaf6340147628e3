import RegisterMachine.Error

/-!
# Events

What a run reports about itself while it goes on. Events have no effect: a step produces them beside
its result, and whoever runs the machine keeps those it wants. Each has a severity, the component
that it belongs to, a message and named details; `Event.line` is its form in a log.
-/

namespace RegisterMachine

inductive Halt
  | exit
  | endOfProgram
  | fault
  deriving DecidableEq, Repr

def Halt.name : Halt → String
  | .exit => "Exit"
  | .endOfProgram => "EndOfProgram"
  | .fault => "Fault"

/-- Something that a run reports about itself. Events are data rather than lines, since it is
settled outside of the machine which of them are shown, and where. -/
inductive Event
  | parsed (instructions : Nat)
  | dispatched (pc : Nat) (op : Opcode)
  | called (address argCount fp depth : Nat)
  | returned (pc fp depth : Nat)
  | hostCalled (name : String) (argCount : Nat)
  | answered (kind : Kind)
  | failed (pc : Nat) (tag : String) (error : Error)
  | halted (reason : Halt) (steps : Nat)
  | finished (reason : Halt) (steps : Nat)
  deriving DecidableEq, Repr

inductive Level
  | trace
  | debug
  | info
  | warn
  | error
  deriving DecidableEq, Repr

namespace Level

def rank : Level → Nat
  | .trace => 0
  | .debug => 1
  | .info => 2
  | .warn => 3
  | .error => 4

def column : Level → String
  | .trace => "TRACE"
  | .debug => "DEBUG"
  | .info => " INFO"
  | .warn => " WARN"
  | .error => "ERROR"

end Level

namespace Event

def level : Event → Level
  | .dispatched .. => .trace
  | .failed .. => .warn
  | _ => .debug

def component : Event → String
  | .parsed _ => "rvm_core::loader"
  | .hostCalled .. => "rvm_core::host::table"
  | .answered _ => "rvm_host::console"
  | .finished .. => "rvm"
  | _ => "rvm_core::vm::vm"

def message : Event → String
  | .parsed _ => "program parsed"
  | .dispatched .. => "dispatch"
  | .called .. => "call"
  | .returned .. => "return"
  | .hostCalled .. => "host call"
  | .answered _ => "prompt answered"
  | .failed .. => "instruction failed"
  | .halted .. => "vm halted"
  | .finished .. => "run finished"

def details : Event → List (String × String)
  | .parsed n => [("instructions", Text.ofNat n)]
  | .dispatched pc op => [("pc", Text.ofNat pc), ("opcode", op.mnemonic)]
  | .called address argCount fp depth =>
    [("address", Text.ofNat address), ("argc", Text.ofNat argCount), ("fp", Text.ofNat fp),
      ("depth", Text.ofNat depth)]
  | .returned pc fp depth =>
    [("return_pc", Text.ofNat pc), ("fp", Text.ofNat fp), ("depth", Text.ofNat depth)]
  | .hostCalled name argCount => [("host", Text.quote name), ("argc", Text.ofNat argCount)]
  | .answered kind => [("kind", Text.quote kind.name)]
  | .failed pc tag error =>
    [("pc", Text.ofNat pc), ("opcode", tag), ("error", error.message)]
  | .halted reason steps => [("halt", reason.name), ("steps", Text.ofNat steps)]
  | .finished reason steps => [("halt", reason.name), ("steps", Text.ofNat steps)]

def names (e : Event) : List String := "message" :: e.details.map Prod.fst

def line (e : Event) : String :=
  e.level.column ++ " " ++ e.component ++ ": " ++ e.message ++
    String.join (e.details.map fun (name, value) => " " ++ name ++ "=" ++ value)

end Event

end RegisterMachine
