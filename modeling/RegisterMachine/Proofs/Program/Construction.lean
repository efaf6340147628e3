import RegisterMachine.Proofs.Program.RoundTrip

/-!
# Built instructions name what they were given

A constructor is given its registers and host slots as words and keeps them as operands, which are
signed. The operand has the bits of the word, so that a word from `2 ^ 63` on turns into a negative
integer. Such an operand is refused when it is read, with the integer that it has become. A word is
therefore read back as itself or not at all (`Instruction.recalls_operandIndex`), and two registers
are never taken for each other.

`Instruction.Builds` lists the constructors, each with the parts that it is given. They all build
the same record of their parts, `Instruction.Parts.record`, so what holds of that record holds of
them, and of what is loaded from their text as well.
-/

namespace RegisterMachine

theorem toInt_toInt64 (w : UInt64) :
    w.toInt64.toInt = if w.toNat < 2 ^ 63 then (w.toNat : Int) else w.toNat - 2 ^ 64 := by
  have hbits : w.toInt64.toInt =
      if 2 * w.toNat < 2 ^ 64 then (w.toNat : Int) else w.toNat - (2 ^ 64 : Nat) :=
    BitVec.toInt_eq_toNat_cond w.toBitVec
  rw [hbits]
  by_cases h : w.toNat < 2 ^ 63
  · rw [if_pos h, if_pos (by omega)]
  · rw [if_neg h, if_neg (by omega)]
    rfl

theorem zero_le_toInt64_iff (w : UInt64) : 0 ≤ w.toInt64 ↔ w.toNat < 2 ^ 63 := by
  have hlt := w.toNat_lt
  rw [Int64.le_iff_toInt_le, Int64.toInt_zero, toInt_toInt64]
  split
  · next h => omega
  · next h => omega

/-- The sign tells the words that an operand still names. -/
theorem Operand.index?_ofIndex (w : UInt64) :
    (ofIndex w).index? = if w.toNat < 2 ^ 63 then some w else none := by
  simp only [ofIndex, index?, zero_le_toInt64_iff, UInt64.toUInt64_toInt64]

namespace Instruction

/-! ## Indices -/

/-- What is read from a field that was built from a word: the word, or from `2 ^ 63` on a refusal
that shows the integer with its bits. -/
inductive Recalls (op : Opcode) (field : Field) (w : UInt64) :
    Except InstructionError UInt64 → Prop
  | index (h : w.toNat < 2 ^ 63) : Recalls op field w (.ok w)
  | refused {n : Int64} (h : 2 ^ 63 ≤ w.toNat) (hn : n.toInt = w.toNat - 2 ^ 64) :
      Recalls op field w (.error (.invalidOperand op field (.int n)))

theorem recalls_operandIndex (op : Opcode) (field : Field) (w : UInt64) :
    Recalls op field w (operandIndex op field (some (.ofIndex w))) := by
  by_cases h : w.toNat < 2 ^ 63
  · simp only [operandIndex, operand, bind, Except.bind, Operand.index?_ofIndex, if_pos h]
    exact .index h
  · simp only [operandIndex, operand, bind, Except.bind, Operand.index?_ofIndex, if_neg h]
    refine .refused (Nat.not_lt.mp h) ?_
    rw [toInt_toInt64, if_neg h]

/-! ## Constructors -/

/-- What a constructor is given: the words for the first and the second operand, and the rest. -/
structure Parts where
  opcode : Opcode
  first : UInt64
  second : Option UInt64 := none
  target : Option UInt64 := none
  args : List UInt64 := []
  argCount : UInt64 := 0

/-- The constructors that are given a register or a host slot to read. Only such an index is stored
as an operand; a target stays the word that it is. -/
inductive Builds : Parts → Instruction → Prop
  | set (source target : UInt64) :
      Builds { opcode := .set, first := source, target := some target } (.set source target)
  | add (lhs rhs target : UInt64) :
      Builds { opcode := .add, first := lhs, second := some rhs, target := some target }
        (.add lhs rhs target)
  | equals (lhs rhs target : UInt64) :
      Builds { opcode := .equals, first := lhs, second := some rhs, target := some target }
        (.equals lhs rhs target)
  | lessThan (lhs rhs target : UInt64) :
      Builds { opcode := .lessThan, first := lhs, second := some rhs, target := some target }
        (.lessThan lhs rhs target)
  | lessThanEquals (lhs rhs target : UInt64) :
      Builds { opcode := .lessThanEquals, first := lhs, second := some rhs, target := some target }
        (.lessThanEquals lhs rhs target)
  | push (source : UInt64) : Builds { opcode := .push, first := source } (.push source)
  | jumpIfTrue (condition target : UInt64) :
      Builds { opcode := .jumpIfTrue, first := condition, target := some target }
        (.jumpIfTrue condition target)
  | jumpIfFalse (condition target : UInt64) :
      Builds { opcode := .jumpIfFalse, first := condition, target := some target }
        (.jumpIfFalse condition target)
  | callFunc (register argCount : UInt64) :
      Builds { opcode := .callFunc, first := register, argCount := argCount }
        (.callFunc register argCount)
  | loadGlobal (index target : UInt64) :
      Builds { opcode := .loadGlobal, first := index, target := some target }
        (.loadGlobal index target)
  | callMethod (register : UInt64) (args : List UInt64) (target : Option UInt64) :
      Builds { opcode := .callMethod, first := register, args := args, target := target }
        (.callMethod register args target)
  | print (source : UInt64) : Builds { opcode := .print, first := source } (.print source)

def Parts.record (parts : Parts) : Instruction where
  opcode := parts.opcode.mnemonic
  arg1 := some (.ofIndex parts.first)
  arg2 := parts.second.map .ofIndex
  target := parts.target
  args := parts.args
  argCount := parts.argCount

theorem Builds.eq_record {parts : Parts} {i : Instruction} (h : Builds parts i) :
    i = parts.record := by
  cases h <;> rfl

/-- An instruction from which the parts are read back: the operation, the indices as far as they
are indices, and the rest unchanged. -/
structure Holds (i : Instruction) (parts : Parts) : Prop where
  decode : i.decode = .ok parts.opcode
  arg1 : ∀ op, Recalls op .arg1 parts.first (i.arg1Index op)
  arg2 : ∀ op, ∀ w ∈ parts.second, Recalls op .arg2 w (i.arg2Index op)
  target : i.target = parts.target
  args : i.args = parts.args
  argCount : i.argCount = parts.argCount

theorem Parts.holds_record (parts : Parts) : parts.record.Holds parts where
  decode := decode_ofOpcode parts.opcode
  arg1 op := recalls_operandIndex op .arg1 parts.first
  arg2 op w hw := by
    have hrecord : parts.record.arg2 = some (.ofIndex w) := by
      rw [record, Option.mem_def.mp hw, Option.map_some]
    rw [arg2Index, hrecord]
    exact recalls_operandIndex op .arg2 w
  target := rfl
  args := rfl
  argCount := rfl

/-- Whatever words a constructor is given, each index that is read from the built instruction is
the one that was given, and from `2 ^ 63` on it is refused. The target, the registers of a call and
the argument count are kept, whatever they are. The same holds of the instruction that stands in
its place when the text of a program that contains it is loaded. -/
theorem constructors_keep_indices {parts : Parts} {i : Instruction} (h : Builds parts i) :
    i.Holds parts ∧
    ∀ (p : Program) (pc : Nat), p.fetch? pc = some i →
      ∃ p' i', Program.ofText p.toText = .ok p' ∧ p'.fetch? pc = some i' ∧ i'.Holds parts := by
  have hholds : i.Holds parts := h.eq_record ▸ parts.holds_record
  refine ⟨hholds, ?_⟩
  intro p pc hi
  have hloads : Program.ofText p.toText = .ok p := by
    rw [Program.ofText, Program.toText, Json.Token.scan_toPrettyText p.fits_toJson]
    exact p.ofTokens_tokens
  exact ⟨p, i, hloads, hi, hholds⟩

/-- The last register that can be named, the first that cannot, and the last word there is. -/
def farApart : Instruction := .add 0x7fffffffffffffff 0x8000000000000000 0xffffffffffffffff

/-- The first operand is read back, the second is refused, and the target is kept. -/
theorem constructors_keep_indices_farApart :
    ∃ parts : Parts, Builds parts farApart ∧
      parts.first = 0x7fffffffffffffff ∧ parts.second = some 0x8000000000000000 ∧
      parts.target = some 0xffffffffffffffff ∧
      farApart.Holds parts ∧
      farApart.arg1Index .add = .ok 0x7fffffffffffffff ∧
      farApart.arg2Index .add = .error (.invalidOperand .add .arg2 (.int (-0x8000000000000000))) ∧
      ∃ p' i', Program.ofText (Program.ofList [.exit, farApart]).toText = .ok p' ∧
        p'.fetch? 1 = some i' ∧ i'.Holds parts := by
  have hbuilds := Builds.add 0x7fffffffffffffff 0x8000000000000000 0xffffffffffffffff
  obtain ⟨hholds, hloads⟩ := constructors_keep_indices hbuilds
  exact ⟨_, hbuilds, rfl, rfl, rfl, hholds, rfl, rfl, hloads _ 1 rfl⟩

end Instruction

end RegisterMachine
