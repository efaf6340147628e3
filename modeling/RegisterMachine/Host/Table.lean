import RegisterMachine.Event

/-!
# Host functions

A machine reaches the outside through host functions and through the sink of its output. Both are
state: a host function has a memory of its own, of type `α`, and the sink, of type `τ`, is shared,
since a host function may print as well. What a call does is up to the `Environment`: it turns
arguments, memory and sink into a reply, a new memory and a new sink.

A table lists the host functions of a machine. A function keeps its place and its name for good, so
a handle that was once valid stays valid, and a call changes no memory but that of the function
called.
-/

namespace RegisterMachine

/-- What a host call comes to: a failure, or at most one value. A function with nothing to give back
leaves the target of the call alone. -/
abbrev Reply := Except Error (Option Value)

/-- The outside of a machine: how host functions act, which of them are consoles (their answers are
reported), and how a line is printed. -/
structure Environment (α τ : Type) where
  call : List Value → α → τ → Reply × α × τ
  isConsole : α → Bool
  writeLine : String → τ → Except Error Unit × τ

structure HostFunction (α : Type) where
  name : String
  memory : α
  deriving DecidableEq, Repr

/-- The host functions of a machine, by index. Functions are only added behind the others and none
is ever taken out, so that an index keeps its meaning. -/
structure HostTable (α : Type) where
  functions : Array (HostFunction α) := #[]
  deriving DecidableEq, Repr

/-- The world outside a machine: its host functions, each with its memory, and the sink, which the
machine and its host functions print to. -/
structure World (α τ : Type) where
  hosts : HostTable α
  sink : τ

variable {α τ : Type}

namespace HostTable

def size (t : HostTable α) : Nat := t.functions.size

def add (t : HostTable α) (f : HostFunction α) : HostTable α := ⟨t.functions.push f⟩

/-- Adds a host function and hands out its handle, the last place of the table. -/
def register (t : HostTable α) (f : HostFunction α) : Nat × HostTable α :=
  let t := t.add f
  (t.size - 1, t)

def name? (t : HostTable α) (index : Nat) : Option String :=
  t.functions[index]?.map HostFunction.name

def resolve (t : HostTable α) (index : Nat) : Except Error Nat :=
  if index < t.size then .ok index else .error (.unknownHostFunction index)

def describe (t : HostTable α) : String :=
  "[" ++ String.intercalate ", " (t.functions.toList.map fun f => Text.quote f.name) ++ "]"

def remember (t : HostTable α) (index : Nat) (memory : α) : HostTable α :=
  ⟨t.functions.modify index fun f => { f with memory := memory }⟩

@[simp] theorem size_add (t : HostTable α) (f : HostFunction α) :
    (t.add f).size = t.size + 1 := by
  simp [add, size]

@[simp] theorem register_eq (t : HostTable α) (f : HostFunction α) :
    t.register f = (t.size, t.add f) := by
  simp [register]

@[simp] theorem size_remember (t : HostTable α) (index : Nat) (memory : α) :
    (t.remember index memory).size = t.size := by
  simp [remember, size]

end HostTable

namespace World

/-- A world after something happened in it: what it came to, and what there is to report. -/
structure Response (α τ β : Type) where
  result : Except Error β
  world : World α τ
  events : List Event

def reported (E : Environment α τ) (memory : α) (reply : Reply) : List Event :=
  match reply with
  | .ok (some v) => if E.isConsole memory then [.answered v.kind] else []
  | _ => []

/-- Calls a host function. An index outside the table calls nothing and leaves the world as it is;
otherwise memory and sink move on, also when the call fails. -/
def invoke (E : Environment α τ) (w : World α τ) (index : Nat) (args : List Value) :
    Response α τ (Option Value) :=
  match w.hosts.functions[index]? with
  | none => ⟨.error (.unknownHostFunction index), w, []⟩
  | some f =>
    let (reply, memory, sink) := E.call args f.memory w.sink
    ⟨reply, ⟨w.hosts.remember index memory, sink⟩,
      .hostCalled f.name args.length :: reported E f.memory reply⟩

def writeLine (E : Environment α τ) (w : World α τ) (line : String) : Response α τ Unit :=
  let (result, sink) := E.writeLine line w.sink
  ⟨result, { w with sink := sink }, []⟩

end World

end RegisterMachine
