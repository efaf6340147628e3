import RegisterMachine.Proofs.Program.RoundTrip

/-!
# The fields of an instruction, one by one

An instruction is read field by field, in whatever order and form its fields come.
`Instruction.slotJson` is the value of a field as it is written, with null for an absent
one, and `Instruction.IsDefault` says which fields need not be written at all.
`Instruction.Draft.of` is what is known of an instruction once some of its fields have
been met: reading one more adds it to them (`readSlot_of`), and the draft is the
instruction as soon as all fields without a default have been met (`Draft.finish_of`).
-/

namespace RegisterMachine.Instruction

open Json (Token Fits ReadsBack tokens)

/-! ## Values and defaults -/

def slotJson (i : Instruction) : Slot → Json
  | .opcode => .text i.opcode
  | .arg1 => i.arg1.elim .null Operand.toJson
  | .arg2 => i.arg2.elim .null Operand.toJson
  | .target => i.target.elim .null .word
  | .args => .list (i.args.map .word)
  | .argCount => .word i.argCount

def IsDefault (i : Instruction) : Slot → Prop
  | .opcode => False
  | .arg1 => i.arg1 = none
  | .arg2 => i.arg2 = none
  | .target => i.target = none
  | .args => i.args = []
  | .argCount => i.argCount = 0

instance (i : Instruction) : DecidablePred i.IsDefault
  | .opcode => inferInstanceAs (Decidable False)
  | .arg1 => inferInstanceAs (Decidable (i.arg1 = none))
  | .arg2 => inferInstanceAs (Decidable (i.arg2 = none))
  | .target => inferInstanceAs (Decidable (i.target = none))
  | .args => inferInstanceAs (Decidable (i.args = []))
  | .argCount => inferInstanceAs (Decidable (i.argCount = 0))

theorem not_isDefault_opcode (i : Instruction) : ¬i.IsDefault .opcode := id

theorem Slot.mem_all (slot : Slot) : slot ∈ all := by
  cases slot <;> decide

theorem Slot.name_inj {slot other : Slot} : slot.name = other.name ↔ slot = other := by
  cases slot <;> cases other <;> decide

theorem Slot.ofName?_eq_some_iff {k : String} {slot : Slot} :
    ofName? k = some slot ↔ slot.name = k := by
  constructor
  · intro h
    rw [ofName?] at h
    have hname := List.find?_some h
    exact eq_of_beq hname
  · rintro rfl
    exact ofName?_name slot

theorem Slot.ofName?_eq_none_iff {k : String} :
    ofName? k = none ↔ ∀ slot : Slot, slot.name ≠ k := by
  rw [Option.eq_none_iff_forall_ne_some]
  exact forall_congr' fun slot => not_congr ofName?_eq_some_iff

instance {p : Slot → Prop} [DecidablePred p] : Decidable (∀ slot, p slot) :=
  decidable_of_iff (∀ slot ∈ Slot.all, p slot)
    ⟨fun h slot => h slot slot.mem_all, fun h slot _ => h slot⟩

def slots (i : Instruction) : List Slot := Slot.all.filter fun slot => ¬i.IsDefault slot

theorem mem_slots (i : Instruction) {slot : Slot} : slot ∈ i.slots ↔ ¬i.IsDefault slot := by
  rw [slots, List.mem_filter, decide_eq_true_iff, and_iff_right slot.mem_all]

theorem nodup_slots (i : Instruction) : i.slots.Nodup := by
  have hall : Slot.all.Nodup := by decide
  exact hall.filter _

def slotField (i : Instruction) (slot : Slot) : String × Json := (slot.name, i.slotJson slot)

/-- The fields are written in the order of the list form, without those that have their
default. -/
theorem fields_eq_map_slots (i : Instruction) : i.fields = i.slots.map i.slotField := by
  have harg1 : (i.arg1.toList.map fun o => ("arg1", o.toJson)) =
      ([Slot.arg1].filter fun slot => ¬i.IsDefault slot).map i.slotField := by
    cases h : i.arg1 <;> simp [slotField, slotJson, IsDefault, Slot.name, h]
  have harg2 : (i.arg2.toList.map fun o => ("arg2", o.toJson)) =
      ([Slot.arg2].filter fun slot => ¬i.IsDefault slot).map i.slotField := by
    cases h : i.arg2 <;> simp [slotField, slotJson, IsDefault, Slot.name, h]
  have htarget : (i.target.toList.map fun t => ("target", Json.word t)) =
      ([Slot.target].filter fun slot => ¬i.IsDefault slot).map i.slotField := by
    cases h : i.target <;> simp [slotField, slotJson, IsDefault, Slot.name, h]
  have hargs : (if i.args.isEmpty then [] else [("args", Json.list (i.args.map .word))]) =
      ([Slot.args].filter fun slot => ¬i.IsDefault slot).map i.slotField := by
    cases h : i.args <;> simp [slotField, slotJson, IsDefault, Slot.name, h]
  have hargCount : (if i.argCount = 0 then [] else [("argCount", Json.word i.argCount)]) =
      ([Slot.argCount].filter fun slot => ¬i.IsDefault slot).map i.slotField := by
    by_cases h : i.argCount = 0 <;> simp [slotField, slotJson, IsDefault, Slot.name, h]
  rw [fields, harg1, harg2, htarget, hargs, hargCount]
  simp only [← List.map_append, ← List.filter_append, List.cons_append]
  rfl

/-! ## Reading a field -/

def Draft.of (i : Instruction) (met : List Slot) : Draft where
  opcode := if .opcode ∈ met then some i.opcode else none
  arg1 := if .arg1 ∈ met then some i.arg1 else none
  arg2 := if .arg2 ∈ met then some i.arg2 else none
  target := if .target ∈ met then some i.target else none
  args := if .args ∈ met then some i.args else none
  argCount := if .argCount ∈ met then some i.argCount else none

theorem Draft.of_nil (i : Instruction) : of i [] = {} := by
  simp [of]

theorem Draft.has_of (i : Instruction) (met : List Slot) (slot : Slot) :
    (of i met).has slot = decide (slot ∈ met) := by
  cases slot <;> simp only [has, of] <;> split <;> simp [*]

/-- The fields that have not been met have to be those with a default. -/
theorem Draft.finish_of {i : Instruction} {met : List Slot}
    (h : ∀ slot, slot ∈ met ∨ i.IsDefault slot) : (of i met).finish = .ok i := by
  have hopcode : Slot.opcode ∈ met := (h .opcode).resolve_right i.not_isDefault_opcode
  have hjoin : ∀ {α : Type} (slot : Slot) (o : Option α), slot ∈ met ∨ o = none →
      (if slot ∈ met then some o else none).join = o := by
    intro α slot o ho
    split
    · rfl
    · next hnot => exact (ho.resolve_left hnot).symm
  have hargs : (if Slot.args ∈ met then some i.args else none).getD [] = i.args := by
    split
    · rfl
    · next hnot => exact ((h .args).resolve_left hnot).symm
  have hargCount : (if Slot.argCount ∈ met then some i.argCount else none).getD 0 =
      i.argCount := by
    split
    · rfl
    · next hnot => exact ((h .argCount).resolve_left hnot).symm
  simp only [finish, of, if_pos hopcode, hjoin .arg1 i.arg1 (h .arg1),
    hjoin .arg2 i.arg2 (h .arg2), hjoin .target i.target (h .target), hargs, hargCount]

theorem readOptional_elim {α : Type} {read : List Token → Except LoadError (α × List Token)}
    {write : α → Json} {o : Option α} (h : ∀ a ∈ o, ReadsBack read write a)
    (hnull : ∀ a, write a ≠ .null) (ts : List Token) :
    readOptional read (tokens (o.elim .null write) ++ ts) = .ok (o, ts) := by
  cases o with
  | none =>
      show readOptional read (tokens .null ++ ts) = _
      rw [tokens]
      rfl
  | some a => exact readsBack_readOptional (h a rfl) (hnull a) ts

theorem readOperand_elim {fuel : Nat} {o : Option Operand}
    (hfuel : (tokens (o.elim .null Operand.toJson)).length ≤ fuel) (ts : List Token) :
    readOptional (readOperand fuel operandDepth) (tokens (o.elim .null Operand.toJson) ++ ts) =
      .ok (o, ts) := by
  refine readOptional_elim ?_ Operand.toJson_ne_null ts
  rintro a rfl
  exact readsBack_readOperand 124 hfuel

/-- Reading the value of a field adds it to what is known. -/
theorem readSlot_of {i : Instruction} {met : List Slot} {slot : Slot} {fuel : Nat}
    (hfuel : (tokens (i.slotJson slot)).length ≤ fuel) (ts : List Token) :
    readSlot fuel (.of i met) slot (tokens (i.slotJson slot) ++ ts) =
      .ok (.of i (slot :: met), ts) := by
  cases slot with
  | opcode =>
      have hread := readsBack_readTag i.opcode ts
      simp only [slotJson, readSlot, hread, bind, Except.bind]
      simp [Draft.of]
  | arg1 =>
      have hread := readOperand_elim hfuel ts
      simp only [slotJson, readSlot, hread, bind, Except.bind]
      simp [Draft.of]
  | arg2 =>
      have hread := readOperand_elim hfuel ts
      simp only [slotJson, readSlot, hread, bind, Except.bind]
      simp [Draft.of]
  | target =>
      have hread := readOptional_elim (o := i.target) (fun w _ => readsBack_readWord w)
        (fun w h => by cases h) ts
      simp only [slotJson, readSlot, hread, bind, Except.bind]
      simp [Draft.of]
  | args =>
      have hlength := (Json.lt_tokens_list (i.args.map .word)).1
      rw [List.length_map] at hlength
      have hread := readsBack_readArgs (Nat.le_trans (Nat.le_of_lt hlength) hfuel) ts
      simp only [slotJson, readSlot, hread, bind, Except.bind]
      simp [Draft.of]
  | argCount =>
      have hread := readsBack_readWord i.argCount ts
      simp only [slotJson, readSlot, hread, bind, Except.bind]
      simp [Draft.of]

/-- The same from behind the key of the field, if it has not been met. -/
theorem readField_of {i : Instruction} {met : List Slot} {slot : Slot} {fuel : Nat}
    (h : slot ∉ met) (hfuel : (tokens (i.slotJson slot)).length ≤ fuel) (ts : List Token) :
    readField fuel (.of i met) slot.name (.colon :: (tokens (i.slotJson slot) ++ ts)) =
      .ok (.of i (slot :: met), ts) := by
  have hhas : (Draft.of i met).has slot = false := by
    rw [Draft.has_of]
    exact decide_eq_false h
  rw [readField_name hhas, readSlot_of hfuel]

end RegisterMachine.Instruction
