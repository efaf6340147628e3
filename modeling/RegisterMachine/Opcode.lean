/-!
# Operation codes

The seventeen operations of the machine and the tags that name them in a program. A tag is matched
letter by letter; anything else names no operation.
-/

namespace RegisterMachine

inductive Opcode
  | store
  | set
  | add
  | equals
  | lessThan
  | lessThanEquals
  | push
  | pop
  | jump
  | jumpIfTrue
  | jumpIfFalse
  | callFunc
  | ret
  | loadGlobal
  | callMethod
  | print
  | exit
  deriving DecidableEq, Repr

namespace Opcode

def all : List Opcode :=
  [.store, .set, .add, .equals, .lessThan, .lessThanEquals, .push, .pop, .jump, .jumpIfTrue,
    .jumpIfFalse, .callFunc, .ret, .loadGlobal, .callMethod, .print, .exit]

def mnemonic : Opcode → String
  | .store => "STORE"
  | .set => "SET"
  | .add => "ADD"
  | .equals => "EQUALS"
  | .lessThan => "LESS_THAN"
  | .lessThanEquals => "LESS_THAN_EQUALS"
  | .push => "PUSH"
  | .pop => "POP"
  | .jump => "JUMP"
  | .jumpIfTrue => "JUMP_IF_TRUE"
  | .jumpIfFalse => "JUMP_IF_FALSE"
  | .callFunc => "CALL_FUNC"
  | .ret => "RETURN"
  | .loadGlobal => "LOAD_GLOBAL"
  | .callMethod => "CALL_METHOD"
  | .print => "PRINT"
  | .exit => "EXIT"

def ofMnemonic? (tag : String) : Option Opcode :=
  all.find? fun op => op.mnemonic == tag

def position (op : Opcode) : Nat :=
  all.idxOf op

theorem mem_all (op : Opcode) : op ∈ all := by
  cases op <;> decide

@[simp] theorem ofMnemonic?_mnemonic (op : Opcode) : ofMnemonic? op.mnemonic = some op := by
  cases op <;> decide

/-- A tag names at most the operation whose mnemonic it is. -/
theorem ofMnemonic?_eq_some_iff {tag : String} {op : Opcode} :
    ofMnemonic? tag = some op ↔ tag = op.mnemonic := by
  constructor
  · intro h
    have := List.find?_some h
    exact (eq_of_beq this).symm
  · rintro rfl
    exact ofMnemonic?_mnemonic op

end Opcode

end RegisterMachine
