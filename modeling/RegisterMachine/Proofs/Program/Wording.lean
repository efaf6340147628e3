import Mathlib.Control.Traversable.Instances
import RegisterMachine.Proofs.Json.Settling
import RegisterMachine.Proofs.Json.Skip
import RegisterMachine.Proofs.Program.Slots

/-!
# Instructions as a text says them

A text can have an integer of any size where an instruction has room for 64 bits.
`Instruction.Wording` is what a text says of an instruction, with the integers as they stand
there, and `Instruction.wording` is what it has to say for a given instruction. An
instruction with the wording of a text exists exactly if every integer is in the range of its
place (`Wording.InRange`), and then it is the only one: nothing is cut or wrapped.

`Wording.Spelling` are the tokens of a wording: the record form with its fields in any order
and with unknown keys between them, and the list form. The record of an address may have
other keys as well, as long as their values can be read.
-/

namespace RegisterMachine

open Json (Token IsItem IsValue Means listTokens recordTokens)

/-! ## Wordings -/

/-- What a text says of an operand, before it is known whether there is such an operand: its
integers may be any. -/
inductive Operand.Wording
  | int (n : Int)
  | bool (b : Bool)
  | text (s : String)
  | address (n : Int)
  deriving DecidableEq, Repr

def Operand.wording : Operand → Wording
  | .int n => .int n.toInt
  | .bool b => .bool b
  | .text s => .text s
  | .address target => .address target.toNat

namespace Operand.Wording

/-- The integer of an operand is a signed word, and that of an address an unsigned one. -/
def InRange : Wording → Prop
  | .int n => -2 ^ 63 ≤ n ∧ n < 2 ^ 63
  | .bool _ => True
  | .text _ => True
  | .address n => 0 ≤ n ∧ n < 2 ^ 64

def toOperand? : Wording → Option Operand
  | .int n => (Text.toInt64? n).map .int
  | .bool b => some (.bool b)
  | .text s => some (.text s)
  | .address n => (Text.toWord? n).map .address

theorem toOperand?_eq_some_iff {r : Wording} {o : Operand} :
    r.toOperand? = some o ↔ o.wording = r := by
  cases r with
  | int n => cases o <;> simp [toOperand?, wording, Text.toInt64?_eq_some_iff]
  | bool b => cases o <;> simp [toOperand?, wording, eq_comm]
  | text s => cases o <;> simp [toOperand?, wording, eq_comm]
  | address n => cases o <;> simp [toOperand?, wording, Text.toWord?_eq_some_iff]

theorem toOperand?_eq_none_iff {r : Wording} : r.toOperand? = none ↔ ¬r.InRange := by
  cases r with
  | int n => rw [toOperand?, Option.map_eq_none_iff, Text.toInt64?_eq_none_iff, InRange]
  | bool b => simp [toOperand?, InRange]
  | text s => simp [toOperand?, InRange]
  | address n => rw [toOperand?, Option.map_eq_none_iff, Text.toWord?_eq_none_iff, InRange]

end Operand.Wording

theorem Operand.inRange_wording (o : Operand) : o.wording.InRange := by
  cases o with
  | int n => exact ⟨n.le_toInt, n.toInt_lt⟩
  | bool b => trivial
  | text s => trivial
  | address target => exact ⟨Int.natCast_nonneg _, Int.ofNat_lt.mpr target.toNat_lt⟩

namespace Instruction

structure Wording where
  opcode : String
  arg1 : Option Operand.Wording := none
  arg2 : Option Operand.Wording := none
  target : Option Int := none
  args : List Int := []
  argCount : Int := 0
  deriving DecidableEq, Repr

def wording (i : Instruction) : Wording where
  opcode := i.opcode
  arg1 := i.arg1.map Operand.wording
  arg2 := i.arg2.map Operand.wording
  target := i.target.map fun t => (t.toNat : Int)
  args := i.args.map fun a => (a.toNat : Int)
  argCount := i.argCount.toNat

namespace Wording

/-- The integers of a field are unsigned words, and those of operands what these can hold. -/
def InRange (r : Wording) : Slot → Prop
  | .opcode => True
  | .arg1 => ∀ o ∈ r.arg1, o.InRange
  | .arg2 => ∀ o ∈ r.arg2, o.InRange
  | .target => ∀ n ∈ r.target, 0 ≤ n ∧ n < 2 ^ 64
  | .args => ∀ n ∈ r.args, 0 ≤ n ∧ n < 2 ^ 64
  | .argCount => 0 ≤ r.argCount ∧ r.argCount < 2 ^ 64

def IsDefault (r : Wording) : Slot → Prop
  | .opcode => False
  | .arg1 => r.arg1 = none
  | .arg2 => r.arg2 = none
  | .target => r.target = none
  | .args => r.args = []
  | .argCount => r.argCount = 0

def toInstruction? (r : Wording) : Option Instruction := do
  let arg1 ← r.arg1.mapM Operand.Wording.toOperand?
  let arg2 ← r.arg2.mapM Operand.Wording.toOperand?
  let target ← r.target.mapM Text.toWord?
  let args ← r.args.mapM Text.toWord?
  let argCount ← Text.toWord? r.argCount
  some ⟨r.opcode, arg1, arg2, target, args, argCount⟩

end Wording

theorem Wording.IsDefault.inRange {r : Wording} {slot : Slot} (h : r.IsDefault slot) :
    r.InRange slot := by
  cases slot with
  | opcode => exact h.elim
  | arg1 | arg2 | target | args | argCount =>
      rw [IsDefault] at h
      simp [InRange, h]

theorem isDefault_wording (i : Instruction) (slot : Slot) :
    i.wording.IsDefault slot ↔ i.IsDefault slot := by
  cases slot with
  | opcode => exact Iff.rfl
  | arg1 | arg2 | target => exact Option.map_eq_none_iff
  | args => exact List.map_eq_nil_iff
  | argCount => exact Int.natCast_eq_zero.trans (@UInt64.toNat_inj i.argCount 0)

section Exactness

variable {α β : Type} {f : α → Option β} {g : β → α} {P : α → Prop}

theorem optionMapM_eq_some_iff (h : ∀ {a b}, f a = some b ↔ g b = a) {o : Option α}
    {p : Option β} : o.mapM f = some p ↔ p.map g = o := by
  cases o with
  | none => cases p <;> simp
  | some a => cases p <;> simp [Option.mapM, h]

theorem listMapM_eq_some_iff (h : ∀ {a b}, f a = some b ↔ g b = a) {as : List α} {bs : List β} :
    as.mapM f = some bs ↔ bs.map g = as := by
  induction as generalizing bs with
  | nil => cases bs <;> simp
  | cons a as ih =>
      cases bs with
      | nil => simp [Option.bind_eq_some_iff]
      | cons b bs => simp [List.mapM_cons, Option.bind_eq_some_iff, h, ih]

theorem optionMapM_eq_none_iff (h : ∀ {a}, f a = none ↔ ¬P a) {o : Option α} :
    o.mapM f = none ↔ ¬∀ a ∈ o, P a := by
  cases o with
  | none => simp
  | some a => simp [Option.mapM, h]

theorem listMapM_eq_none_iff (h : ∀ {a}, f a = none ↔ ¬P a) {as : List α} :
    as.mapM f = none ↔ ¬∀ a ∈ as, P a := by
  induction as with
  | nil => simp
  | cons a as ih =>
      rw [List.mapM_cons, List.forall_mem_cons]
      by_cases ha : P a
      · obtain ⟨b, hb⟩ := Option.ne_none_iff_exists'.mp fun hnone => h.mp hnone ha
        rw [and_iff_right ha, ← ih, hb]
        cases as.mapM f <;> simp
      · simp [h.mpr ha, ha]

end Exactness

namespace Wording

/-- An instruction is the one of a wording only if it holds every integer as it stands there. -/
theorem toInstruction?_eq_some_iff {r : Wording} {i : Instruction} :
    r.toInstruction? = some i ↔ i.wording = r := by
  have harg := @optionMapM_eq_some_iff _ _ _ _ @Operand.Wording.toOperand?_eq_some_iff
  have htarget := @optionMapM_eq_some_iff _ _ _ _ @Text.toWord?_eq_some_iff
  have hargs := @listMapM_eq_some_iff _ _ _ _ @Text.toWord?_eq_some_iff
  simp only [toInstruction?, Option.bind_eq_bind, Option.bind_eq_some_iff, harg, htarget, hargs,
    Text.toWord?_eq_some_iff, Option.some.injEq]
  constructor
  · rintro ⟨arg1, harg1, arg2, harg2, target, htarget, args, hargs, argCount, hargCount, rfl⟩
    simp only [wording, harg1, harg2, htarget, hargs, hargCount]
  · rintro rfl
    exact ⟨_, rfl, _, rfl, _, rfl, _, rfl, _, rfl, rfl⟩

end Wording

theorem inRange_wording (i : Instruction) (slot : Slot) : i.wording.InRange slot := by
  have hword : ∀ w : UInt64, 0 ≤ (w.toNat : Int) ∧ (w.toNat : Int) < 2 ^ 64 :=
    fun w => ⟨Int.natCast_nonneg _, Int.ofNat_lt.mpr w.toNat_lt⟩
  have hoperand : ∀ o : Option Operand, ∀ a ∈ o.map Operand.wording, a.InRange := by
    intro o a ha
    obtain ⟨b, -, rfl⟩ := Option.map_eq_some_iff.mp ha
    exact b.inRange_wording
  cases slot with
  | opcode => trivial
  | arg1 => exact hoperand i.arg1
  | arg2 => exact hoperand i.arg2
  | target =>
      intro n hn
      obtain ⟨t, -, rfl⟩ := Option.map_eq_some_iff.mp hn
      exact hword t
  | args =>
      intro n hn
      obtain ⟨a, -, rfl⟩ := List.mem_map.mp hn
      exact hword a
  | argCount => exact hword i.argCount

/-- There is no instruction for a wording as soon as one of its integers is out of range. -/
theorem Wording.toInstruction?_eq_none_iff {r : Wording} :
    r.toInstruction? = none ↔ ¬∀ slot, r.InRange slot := by
  have hoperand := @optionMapM_eq_none_iff _ _ _ _ @Operand.Wording.toOperand?_eq_none_iff
  have htarget := @optionMapM_eq_none_iff _ _ _ _ @Text.toWord?_eq_none_iff
  have hargs := @listMapM_eq_none_iff _ _ _ _ @Text.toWord?_eq_none_iff
  constructor
  · intro hnone h
    obtain ⟨arg1, harg1⟩ := Option.ne_none_iff_exists'.mp fun hno => hoperand.mp hno (h .arg1)
    obtain ⟨arg2, harg2⟩ := Option.ne_none_iff_exists'.mp fun hno => hoperand.mp hno (h .arg2)
    obtain ⟨target, htarget⟩ := Option.ne_none_iff_exists'.mp fun hno => htarget.mp hno (h .target)
    obtain ⟨args, hargs⟩ := Option.ne_none_iff_exists'.mp fun hno => hargs.mp hno (h .args)
    obtain ⟨argCount, hargCount⟩ :=
      Option.ne_none_iff_exists'.mp fun hno => Text.toWord?_eq_none_iff.mp hno (h .argCount)
    simp [toInstruction?, harg1, harg2, htarget, hargs, hargCount] at hnone
  · intro h
    apply Classical.byContradiction
    intro hsome
    obtain ⟨i, hi⟩ := Option.ne_none_iff_exists'.mp hsome
    cases toInstruction?_eq_some_iff.mp hi
    exact h i.inRange_wording

end Instruction

/-! ## Tokens -/

def Json.intTokens (n : Int) : List Token := [.number (.ofInt n)]

open Json (intTokens)

/-- The tokens of an operand. The record of an address has one address, and may have other
keys with values that can be read. -/
inductive Operand.Wording.Tokens : Operand.Wording → List Token → Prop
  | int (n : Int) : Tokens (.int n) (intTokens n)
  | bool (b : Bool) : Tokens (.bool b) [.bool b]
  | text (s : String) : Tokens (.text s) [.text s]
  | address {n : Int} {before after : List (String × List Token × Json)}
      (hkeys : ∀ m ∈ before ++ after, m.1 ≠ "addr")
      (h : ∀ m ∈ before ++ after, Means (Instruction.operandDepth - 1) m.2.1 m.2.2) :
      Tokens (.address n) (recordTokens ((before.map fun m => (.text m.1, m.2.1)) ++
        (.text "addr", intTokens n) :: after.map fun m => (.text m.1, m.2.1)))

inductive Operand.Wording.OptionalTokens : Option Operand.Wording → List Token → Prop
  | null : OptionalTokens none [.null]
  | operand {r : Operand.Wording} {vs : List Token} (h : r.Tokens vs) : OptionalTokens (some r) vs

theorem Operand.Wording.OptionalTokens.isItem {o : Option Operand.Wording} {vs : List Token}
    (h : Operand.Wording.OptionalTokens o vs) : IsItem vs := by
  cases h with
  | null => exact ⟨_, _, rfl, nofun⟩
  | operand h =>
      cases h with
      | int | bool | text | address => exact ⟨_, _, rfl, nofun⟩

namespace Instruction.Wording

open Operand.Wording (OptionalTokens)

variable {r : Wording}

inductive SlotTokens (r : Wording) : Slot → List Token → Prop
  | opcode : SlotTokens r .opcode [.text r.opcode]
  | arg1 {vs : List Token} (h : OptionalTokens r.arg1 vs) : SlotTokens r .arg1 vs
  | arg2 {vs : List Token} (h : OptionalTokens r.arg2 vs) : SlotTokens r .arg2 vs
  | target : SlotTokens r .target (r.target.elim [.null] intTokens)
  | args : SlotTokens r .args (listTokens (r.args.map intTokens))
  | argCount : SlotTokens r .argCount (intTokens r.argCount)

theorem SlotTokens.isItem {slot : Slot} {vs : List Token} (h : r.SlotTokens slot vs) :
    IsItem vs := by
  cases h with
  | opcode | args | argCount => exact ⟨_, _, rfl, nofun⟩
  | arg1 h | arg2 h => exact h.isItem
  | target => cases r.target <;> exact ⟨_, _, rfl, nofun⟩

/-- A member of the record form: a field with its value, or a key that names no field with
any value. -/
inductive Member (r : Wording) : String × List Token → Prop
  | field {slot : Slot} {vs : List Token} (h : r.SlotTokens slot vs) : Member r (slot.name, vs)
  | unknown {k : String} {vs : List Token} (hk : ∀ slot : Slot, slot.name ≠ k)
      (hvs : IsValue vs) : Member r (k, vs)

/-- The members of a record that says so much of an instruction, in their order. -/
structure IsRecord (r : Wording) (members : List (String × List Token)) : Prop where
  member : ∀ m ∈ members, r.Member m
  once : ∀ slot : Slot, (members.map Prod.fst).count slot.name ≤ 1
  complete : ∀ slot : Slot, slot.name ∈ members.map Prod.fst ∨ r.IsDefault slot

inductive Spelling (r : Wording) : List Token → Prop
  | record {members : List (String × List Token)} (h : r.IsRecord members) :
      Spelling r (recordTokens (members.map fun m => (.text m.1, m.2)))
  | list {items : List (Slot × List Token)} {omitted : List Slot}
      (hall : items.map Prod.fst ++ omitted = Slot.all) (h : ∀ m ∈ items, r.SlotTokens m.1 m.2)
      (homitted : ∀ slot ∈ omitted, r.IsDefault slot) : Spelling r (listTokens (items.map Prod.snd))

theorem Spelling.isItem {vs : List Token} (h : r.Spelling vs) : IsItem vs := by
  cases h with
  | record | list => exact ⟨_, _, rfl, nofun⟩

end Instruction.Wording

end RegisterMachine
