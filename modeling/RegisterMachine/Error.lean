import RegisterMachine.Instruction
import RegisterMachine.Json.Token

/-!
# Errors

Everything that can go wrong, as causes: what the structural check finds in a program
(`Diagnostic`), why a text is no program (`LoadError`), and what stops a machine (`Error`). The
wording of each is in its `message`.
-/

namespace RegisterMachine

/-! ## Findings of the structural check -/

/-- What is wrong with an instruction in its program. Only the sizes that a machine is built with
count, and nothing that depends on the values of a run. -/
inductive Problem
  | instruction (cause : InstructionError)
  | register (index count : Nat)
  | jump (target length : Nat)
  | host (index : Nat)
  deriving DecidableEq, Repr

def noHostMessage (index : Nat) : String :=
  "no host function at table index " ++ Text.ofNat index

def Problem.message : Problem → String
  | .instruction cause => cause.message
  | .register index count =>
    "register r" ++ Text.ofNat index ++ " out of range (0.." ++ Text.ofNat count ++ ")"
  | .jump target length =>
    "jump target " ++ Text.ofNat target ++ " past end of program (" ++ Text.ofNat length ++ ")"
  | .host index => noHostMessage index

structure Diagnostic where
  pc : Nat
  problem : Problem
  deriving DecidableEq, Repr

def Diagnostic.text (d : Diagnostic) : String :=
  "instruction " ++ Text.ofNat d.pc ++ ": " ++ d.problem.message

/-! ## Texts that are no program -/

/-- Why a text does not load as a program: it is no JSON, or its JSON is no program, or a strict
reader objects to the program that it is. -/
inductive LoadError
  | defect (defect : Json.Defect)
  | mismatch (cause : Json.Mismatch)
  | missingOpcode
  | duplicateField (name : String)
  | emptyRecord
  | operandMismatch
  | rejected (first : Diagnostic) (count : Nat)
  deriving DecidableEq, Repr

/-- The wording of a load error. Texts that are not JSON are only told apart by whether they stop
too early. -/
def LoadError.message : LoadError → String
  | .defect .endOfInput => "<eof>"
  | .defect .malformed => "<syntax>"
  | .mismatch cause => cause.message
  | .missingOpcode => "missing field `opcode`"
  | .duplicateField name => "duplicate field `" ++ name ++ "`"
  | .emptyRecord => "invalid length 0, expected struct Instruction with 6 elements"
  | .operandMismatch => "data did not match any variant of untagged enum Operand"
  | .rejected first count =>
    first.text ++ " (" ++ Text.ofNat count ++ " problem(s) in total)"

/-! ## Machine errors -/

/-- What an operation wants of the kinds of its two operands: two numbers, or two values of one kind
that can be compared. -/
inductive Operands
  | numbers
  | comparable
  deriving DecidableEq, Repr

def Operands.describe : Operands → String
  | .numbers => "Number"
  | .comparable => "matching Number, Boolean or Text"

/-- What stops a machine, or keeps it from being built. An error carries the data that its message
shows, and not the message. -/
inductive Error
  | instruction (cause : InstructionError)
  | indexOutOfBounds (index count : Nat)
  | stackUnderflow
  | invalidFrame (size length : Nat)
  | callStackUnderflow
  | callDepthExceeded (limit : Nat)
  | invalidFunctionAddress (register : Nat)
  | notCallable (register : Nat)
  | unknownHostFunction (index : Nat)
  | host (name message : String)
  | typeMismatch (op : Opcode) (expected : Operands) (left right : Kind)
  | arithmeticOverflow
  | stepLimitExceeded (limit : Nat)
  | load (cause : LoadError)
  | io (detail : String)
  deriving DecidableEq, Repr

def Error.message : Error → String
  | .instruction cause => cause.message
  | .indexOutOfBounds index count =>
    "register index " ++ Text.ofNat index ++ " out of bounds (register file has " ++
      Text.ofNat count ++ " slots)"
  | .stackUnderflow => "stack underflow"
  | .invalidFrame size length =>
    "invalid frame: cannot truncate data stack of size " ++ Text.ofNat size ++ " to " ++
      Text.ofNat length
  | .callStackUnderflow => "call stack underflow: RETURN without a saved frame"
  | .callDepthExceeded limit => "call depth exceeded " ++ Text.ofNat limit
  | .invalidFunctionAddress register =>
    "register r" ++ Text.ofNat register ++ " does not hold a function address"
  | .notCallable register =>
    "register r" ++ Text.ofNat register ++ " does not hold a host function"
  | .unknownHostFunction index => noHostMessage index
  | .host name message => "host function `" ++ name ++ "` failed: " ++ message
  | .typeMismatch op expected left right =>
    op.mnemonic ++ " expected " ++ expected.describe ++ " operands, got " ++ left.name ++
      " and " ++ right.name
  | .arithmeticOverflow => "arithmetic overflow"
  | .stepLimitExceeded limit => "step limit exceeded: " ++ Text.ofNat limit
  | .load cause => "failed to load program: " ++ cause.message
  | .io detail => "io error: " ++ detail

end RegisterMachine
