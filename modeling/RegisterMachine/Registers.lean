import RegisterMachine.Error

/-!
# The register file

A fixed number of registers, each holding a value; all of them start at zero. An index outside the
file is an error, also for a write. `write` is the write itself, for an index that has been checked:
it keeps the number of registers and touches no other one.
-/

namespace RegisterMachine

/-- The register file. Its size is fixed when a machine is built, and every register holds a value
from the start, so that only an index can be wrong. -/
structure Registers where
  slots : Array Value
  deriving DecidableEq, Repr

namespace Registers

def ofCount (count : Nat) : Registers := ⟨Array.replicate count default⟩

def count (r : Registers) : Nat := r.slots.size

def get (r : Registers) (index : Nat) : Except Error Value :=
  match r.slots[index]? with
  | some v => .ok v
  | none => .error (.indexOutOfBounds index r.count)

def check (r : Registers) (index : Nat) : Except Error Unit :=
  if index < r.count then .ok () else .error (.indexOutOfBounds index r.count)

/-- Puts a value into a register that is there. An index outside the file changes nothing here: who
calls this has checked the index, as `set` does. -/
def write (r : Registers) (index : Nat) (v : Value) : Registers :=
  ⟨r.slots.setIfInBounds index v⟩

def set (r : Registers) (index : Nat) (v : Value) : Except Error Registers := do
  r.check index
  .ok (r.write index v)

/-- The numbers in two registers, for an operation that needs both. Both are fetched before the kind
of either is looked at, which decides between two faults. -/
def numbers (r : Registers) (lhs rhs : Nat) (op : Opcode) : Except Error (Int64 × Int64) := do
  let a ← r.get lhs
  let b ← r.get rhs
  match a, b with
  | .number m, .number n => .ok (m, n)
  | a, b => .error (.typeMismatch op .numbers a.kind b.kind)

@[simp] theorem count_ofCount (n : Nat) : (ofCount n).count = n := by
  simp [ofCount, count]

@[simp] theorem count_write (r : Registers) (index : Nat) (v : Value) :
    (r.write index v).count = r.count := by
  simp [write, count]

/-- An index passes the check exactly if it names a register. -/
theorem check_eq_ok_iff (r : Registers) (index : Nat) :
    r.check index = .ok () ↔ index < r.count := by
  unfold check
  split <;> simp_all

theorem get_write_self {r : Registers} {index : Nat} (h : index < r.count) (v : Value) :
    (r.write index v).get index = .ok v := by
  unfold count at h
  simp [get, write, h]

theorem get_write_of_ne {r : Registers} {index other : Nat} (h : index ≠ other) (v : Value) :
    (r.write index v).get other = r.get other := by
  rw [get, get, count_write]
  simp [write, h]

end Registers

end RegisterMachine
