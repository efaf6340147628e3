import RegisterMachine.Error

/-!
# The two stacks

The data stack holds arguments, locals and return values, and changes at the top only. The call
stack holds what a call saves for its return: where to go on, and where the caller's frame starts on
the data stack. Its depth is the nesting of subroutines.
-/

namespace RegisterMachine

/-! ## The data stack -/

/-- The data stack, bottom first. A frame pointer is an index into it, and the current frame is
everything from there on up to the top. -/
structure DataStack where
  values : Array Value := #[]
  deriving DecidableEq, Repr

namespace DataStack

def size (s : DataStack) : Nat := s.values.size

def push (s : DataStack) (v : Value) : DataStack := ⟨s.values.push v⟩

def top (s : DataStack) : Except Error Value :=
  match s.values.back? with
  | some v => .ok v
  | none => .error .stackUnderflow

def rest (s : DataStack) : DataStack := ⟨s.values.pop⟩

def pop (s : DataStack) : Except Error (Value × DataStack) := do
  let v ← s.top
  .ok (v, s.rest)

def bottom (s : DataStack) (length : Nat) : DataStack := ⟨s.values.take length⟩

/-- Drops everything above a length. A stack that is shorter than that is refused rather than left
alone: its frame pointer does not belong to it. -/
def truncate (s : DataStack) (length : Nat) : Except Error DataStack :=
  if s.size < length then .error (.invalidFrame s.size length) else .ok (s.bottom length)

@[simp] theorem size_push (s : DataStack) (v : Value) : (s.push v).size = s.size + 1 := by
  simp [push, size]

@[simp] theorem size_bottom (s : DataStack) (n : Nat) : (s.bottom n).size = min n s.size := by
  simp [bottom, size]

@[simp] theorem top_push (s : DataStack) (v : Value) : (s.push v).top = .ok v := by
  simp [push, top]

@[simp] theorem rest_push (s : DataStack) (v : Value) : (s.push v).rest = s := by
  simp [push, rest]

end DataStack

/-! ## The call stack -/

/-- What a call saves for its return. The length of the stack is not part of it: a return drops
everything above the frame pointer of the subroutine. -/
structure Frame where
  returnPc : Nat
  savedFp : Nat
  deriving DecidableEq, Repr

/-- The saved frames, oldest first. The frame of a run itself, which nobody called, is not among
them, so that a return needs at least one. -/
structure CallStack where
  frames : Array Frame := #[]
  deriving DecidableEq, Repr

namespace CallStack

def depth (c : CallStack) : Nat := c.frames.size

def push (c : CallStack) (f : Frame) : CallStack := ⟨c.frames.push f⟩

def top (c : CallStack) : Except Error Frame :=
  match c.frames.back? with
  | some f => .ok f
  | none => .error .callStackUnderflow

def rest (c : CallStack) : CallStack := ⟨c.frames.pop⟩

def pop (c : CallStack) : Except Error (Frame × CallStack) := do
  let f ← c.top
  .ok (f, c.rest)

@[simp] theorem depth_push (c : CallStack) (f : Frame) : (c.push f).depth = c.depth + 1 := by
  simp [push, depth]

@[simp] theorem top_push (c : CallStack) (f : Frame) : (c.push f).top = .ok f := by
  simp [push, top]

@[simp] theorem rest_push (c : CallStack) (f : Frame) : (c.push f).rest = c := by
  simp [push, rest]

end CallStack

end RegisterMachine
