import RegisterMachine.Program.Printer
import RegisterMachine.Program.Reader
import RegisterMachine.Proofs.Json.Read

/-!
# Programs come back as they were written

The text of a program spells the program. An operand is written without saying what kind
it is, and a field with its default is left out, so the reader has to find both again:
the kind from the shape of the value, the default from the absence of the field.
`Instruction.Draft.written` is what has been read of an instruction when its record
closes.
-/

namespace RegisterMachine

open Json (Token Fits ReadsBack Absorbs tokens)

/-! ## What is written fits -/

theorem Json.fits_word (room : Nat) (w : UInt64) : Fits room (.word w) := by
  refine .int ?_ (Int.ofNat_le.mpr (Text.word_le w))
  exact Int.le_trans (by decide) (Int.natCast_nonneg _)

theorem Operand.fits_toJson (room : Nat) (o : Operand) : Fits (room + 1) o.toJson := by
  cases o with
  | int n =>
      exact .int (Text.minInt64_le n) (Int.le_trans (Text.le_maxInt64 n) (by decide))
  | bool b => exact .bool b
  | text s => exact .text s
  | address target =>
      refine .record ?_
      intro f hf
      rw [List.mem_singleton] at hf
      rw [hf]
      exact Json.fits_word room target

namespace Instruction

/-- The fields that are written: the tag, and those that differ from their defaults. -/
theorem mem_fields_iff (i : Instruction) (f : String × Json) :
    f ∈ i.fields ↔
      f = ("opcode", .text i.opcode) ∨
      (∃ o, i.arg1 = some o ∧ f = ("arg1", o.toJson)) ∨
      (∃ o, i.arg2 = some o ∧ f = ("arg2", o.toJson)) ∨
      (∃ t, i.target = some t ∧ f = ("target", .word t)) ∨
      (i.args ≠ [] ∧ f = ("args", .list (i.args.map .word))) ∨
      (i.argCount ≠ 0 ∧ f = ("argCount", .word i.argCount)) := by
  have hargs : f ∈ (if i.args.isEmpty then [] else [("args", Json.list (i.args.map .word))]) ↔
      i.args ≠ [] ∧ f = ("args", .list (i.args.map .word)) := by
    cases i.args <;> simp
  have hargCount : f ∈ (if i.argCount = 0 then [] else [("argCount", Json.word i.argCount)]) ↔
      i.argCount ≠ 0 ∧ f = ("argCount", .word i.argCount) := by
    by_cases h : i.argCount = 0
    · simp [h]
    · simp [h]
  simp only [fields, List.cons_append, List.mem_cons, List.mem_append, List.mem_map,
    Option.mem_toList, hargs, hargCount, or_assoc, eq_comm (a := f)]

theorem fits_toJson (room : Nat) (i : Instruction) : Fits (room + 2) i.toJson := by
  refine .record ?_
  intro f hf
  rw [mem_fields_iff] at hf
  rcases hf with rfl | ⟨o, -, rfl⟩ | ⟨o, -, rfl⟩ | ⟨t, -, rfl⟩ | ⟨-, rfl⟩ | ⟨-, rfl⟩
  · exact .text _
  · exact o.fits_toJson room
  · exact o.fits_toJson room
  · exact Json.fits_word _ _
  · refine .list ?_
    intro v hv
    obtain ⟨w, -, rfl⟩ := List.mem_map.mp hv
    exact Json.fits_word _ _
  · exact Json.fits_word _ _

end Instruction

theorem Program.fits_toJson (p : Program) : Fits 3 p.toJson := by
  refine .list ?_
  intro v hv
  obtain ⟨i, -, rfl⟩ := List.mem_map.mp hv
  exact i.fits_toJson 0

/-! ## Operands -/

theorem Operand.ofJson?_toJson (o : Operand) : ofJson? o.toJson = some o := by
  cases o with
  | int n =>
      show (Text.toInt64? n.toInt).map Operand.int = _
      rw [Text.toInt64?_toInt, Option.map_some]
  | bool b => rfl
  | text s => rfl
  | address target =>
      show (Text.toWord? target.toNat).map Operand.address = _
      rw [Text.toWord?_toNat, Option.map_some]

/-- An operand is not taken for an absent one. -/
theorem Operand.toJson_ne_null (o : Operand) : o.toJson ≠ .null := by
  cases o <;> simp [toJson, Json.int]

namespace Instruction

theorem defect_ok {α : Type} (a : α) : defect (.ok a) = .ok a := rfl

theorem mismatch_ok {α : Type} (a : α) : mismatch (.ok a) = .ok a := rfl

theorem readsBack_readOperand (room : Nat) {fuel : Nat} {o : Operand}
    (hfuel : (tokens o.toJson).length ≤ fuel) :
    ReadsBack (readOperand fuel (room + 1)) Operand.toJson o := by
  intro ts
  have hread : Json.read fuel (room + 1) (tokens o.toJson ++ ts) = .ok (o.toJson, ts) :=
    Json.read_tokens (o.fits_toJson room) hfuel ts
  simp only [readOperand, hread, defect_ok, bind, Except.bind,
    Operand.ofJson?_toJson]

/-! ## The other values of a field -/

theorem readsBack_readWord (w : UInt64) : ReadsBack readWord Json.word w := by
  intro ts
  have hvalue : (Json.Numeral.ofInt w.toNat).value? = some (.int w.toNat) := by
    refine Json.Numeral.value?_ofInt ?_ (Int.ofNat_le.mpr (Text.word_le w))
    exact Int.le_trans (by decide) (Int.natCast_nonneg _)
  have hhead : Json.head (tokens (.word w) ++ ts) = .ok (.number (.int w.toNat), ts) := by
    rw [Json.word, Json.int, tokens, Json.Number.token_int]
    simp only [List.cons_append, List.nil_append, Json.head, hvalue]
  simp only [readWord, hhead, defect_ok, bind, Except.bind, Json.Shape.toWord,
    Text.toWord?_toNat, mismatch_ok]

theorem readsBack_readTag (s : String) : ReadsBack readTag Json.text s := by
  intro ts
  rw [tokens]
  rfl

theorem readsBack_readArgs {fuel : Nat} {args : List UInt64} (hfuel : args.length ≤ fuel) :
    ReadsBack (readArgs fuel) (fun args => .list (args.map .word)) args := by
  intro ts
  obtain ⟨us, hus, hread⟩ := Json.readList_tokens LoadError.defect
    (fun w _ => readsBack_readWord w) hfuel ts
  rw [hus]
  exact hread

theorem readsBack_readOptional {α : Type} {read : List Token → Except LoadError (α × List Token)}
    {write : α → Json} {a : α} (h : ReadsBack read write a) (hnull : write a ≠ .null)
    (ts : List Token) : readOptional read (tokens (write a) ++ ts) = .ok (some a, ts) := by
  obtain ⟨t, us, hus, -, ht⟩ := Json.exists_tokens_eq_cons (write a)
  have hread := h ts
  rw [hus, List.cons_append] at hread ⊢
  rw [readOptional]
  · rw [hread]
    rfl
  · intro vs hvs
    exact hnull (ht (List.cons.inj hvs).1)

/-! ## Instructions -/

theorem readField_name {fuel : Nat} {d : Draft} {slot : Slot} (h : d.has slot = false)
    (ts : List Token) : readField fuel d slot.name (.colon :: ts) = readSlot fuel d slot ts := by
  rw [readField, Slot.ofName?_name]
  simp only [h, Bool.false_eq_true, if_false]
  rfl

/-- A field that has not been met is absorbed as its value is read. -/
theorem absorbs_slot {fuel : Nat} {d d' : Draft} {v : Json} (slot : Slot)
    (h : d.has slot = false) (hread : ∀ ts, readSlot fuel d slot (tokens v ++ ts) = .ok (d', ts)) :
    Absorbs (readField fuel) d [(slot.name, v)] d' := by
  refine .cons ?_ .nil
  intro ts
  rw [readField_name h, hread]

def Draft.written (i : Instruction) : Draft where
  opcode := some i.opcode
  arg1 := i.arg1.map some
  arg2 := i.arg2.map some
  target := i.target.map some
  args := if i.args.isEmpty then none else some i.args
  argCount := if i.argCount = 0 then none else some i.argCount

theorem Draft.finish_written (i : Instruction) : (written i).finish = .ok i := by
  obtain ⟨opcode, arg1, arg2, target, args, argCount⟩ := i
  have hargs : (if args.isEmpty then none else some args).getD [] = args := by
    cases args <;> rfl
  have hargCount : (if argCount = 0 then none else some argCount).getD 0 = argCount := by
    by_cases h : argCount = 0
    · rw [if_pos h, h]
      rfl
    · rw [if_neg h]
      rfl
  simp only [finish, written, hargs, hargCount]
  cases arg1 <;> cases arg2 <;> cases target <;> rfl

/-- A field that may be null is absorbed if it is written, and stays unmet if it is not. -/
theorem absorbs_optional {α : Type} {fuel : Nat} {d : Draft} (slot : Slot)
    (put : Option (Option α) → Draft) {read : List Token → Except LoadError (α × List Token)}
    {write : α → Json} {o : Option α} (h : d.has slot = false) (hnone : put none = d)
    (hread : ∀ a ∈ o, ReadsBack read write a) (hnull : ∀ a, write a ≠ .null)
    (hslot : ∀ ts, readSlot fuel d slot ts = (do
      let (o, ts) ← readOptional read ts
      .ok (put (some o), ts))) :
    Absorbs (readField fuel) d (o.toList.map fun a => (slot.name, write a)) (put (o.map some)) := by
  cases o with
  | none =>
      rw [Option.map_none, hnone]
      exact .nil
  | some a =>
      refine absorbs_slot slot h ?_
      intro ts
      rw [hslot, readsBack_readOptional (hread a rfl) (hnull a)]
      rfl

section Slots

variable {fuel : Nat} {d : Draft}

theorem absorbs_opcode (h : d.opcode = none) (s : String) :
    Absorbs (readField fuel) d [("opcode", .text s)] { d with opcode := some s } := by
  refine absorbs_slot .opcode (by rw [Draft.has, h]; rfl) ?_
  intro ts
  rw [readSlot, readsBack_readTag]
  rfl

theorem absorbs_arg1 (h : d.arg1 = none) {o : Option Operand}
    (hfuel : ∀ a ∈ o, (tokens a.toJson).length ≤ fuel) :
    Absorbs (readField fuel) d (o.toList.map fun a => ("arg1", a.toJson))
      { d with arg1 := o.map some } := by
  refine absorbs_optional .arg1 (fun o => { d with arg1 := o }) (by rw [Draft.has, h]; rfl)
    (by rw [← h]) ?_ Operand.toJson_ne_null (fun _ => rfl)
  intro a ha
  exact readsBack_readOperand 124 (hfuel a ha)

theorem absorbs_arg2 (h : d.arg2 = none) {o : Option Operand}
    (hfuel : ∀ a ∈ o, (tokens a.toJson).length ≤ fuel) :
    Absorbs (readField fuel) d (o.toList.map fun a => ("arg2", a.toJson))
      { d with arg2 := o.map some } := by
  refine absorbs_optional .arg2 (fun o => { d with arg2 := o }) (by rw [Draft.has, h]; rfl)
    (by rw [← h]) ?_ Operand.toJson_ne_null (fun _ => rfl)
  intro a ha
  exact readsBack_readOperand 124 (hfuel a ha)

theorem absorbs_target (h : d.target = none) (o : Option UInt64) :
    Absorbs (readField fuel) d (o.toList.map fun t => ("target", .word t))
      { d with target := o.map some } := by
  refine absorbs_optional .target (fun o => { d with target := o }) (by rw [Draft.has, h]; rfl)
    (by rw [← h]) ?_ ?_ (fun _ => rfl)
  · intro t _
    exact readsBack_readWord t
  · intro t ht
    cases ht

theorem absorbs_args (h : d.args = none) {args : List UInt64} (hfuel : args.length ≤ fuel) :
    Absorbs (readField fuel) d
      (if args.isEmpty then [] else [("args", .list (args.map .word))])
      { d with args := if args.isEmpty then none else some args } := by
  by_cases hempty : args.isEmpty
  · rw [if_pos hempty, if_pos hempty, ← h]
    exact .nil
  · rw [if_neg hempty, if_neg hempty]
    refine absorbs_slot .args (by rw [Draft.has, h]; rfl) ?_
    intro ts
    rw [readSlot, readsBack_readArgs hfuel]
    rfl

theorem absorbs_argCount (h : d.argCount = none) (n : UInt64) :
    Absorbs (readField fuel) d (if n = 0 then [] else [("argCount", .word n)])
      { d with argCount := if n = 0 then none else some n } := by
  by_cases hzero : n = 0
  · rw [if_pos hzero, if_pos hzero, ← h]
    exact .nil
  · rw [if_neg hzero, if_neg hzero]
    refine absorbs_slot .argCount (by rw [Draft.has, h]; rfl) ?_
    intro ts
    rw [readSlot, readsBack_readWord]
    rfl

end Slots

/-- The fields of a written instruction are absorbed into its draft, in the order in
which they are written. -/
theorem absorbs_fields {fuel : Nat} {i : Instruction}
    (hfuel : ∀ f ∈ i.fields, (tokens f.2).length ≤ fuel) :
    Absorbs (readField fuel) {} i.fields (.written i) := by
  have harg1 : ∀ o ∈ i.arg1, (tokens o.toJson).length ≤ fuel := by
    intro o ho
    exact hfuel ("arg1", o.toJson) ((i.mem_fields_iff _).mpr (.inr (.inl ⟨o, ho, rfl⟩)))
  have harg2 : ∀ o ∈ i.arg2, (tokens o.toJson).length ≤ fuel := by
    intro o ho
    exact hfuel ("arg2", o.toJson) ((i.mem_fields_iff _).mpr (.inr (.inr (.inl ⟨o, ho, rfl⟩))))
  have hargs : i.args.length ≤ fuel := by
    by_cases hempty : i.args = []
    · rw [hempty]
      exact Nat.zero_le _
    · have hle := hfuel ("args", .list (i.args.map .word))
        ((i.mem_fields_iff _).mpr (.inr (.inr (.inr (.inr (.inl ⟨hempty, rfl⟩))))))
      have hlt := (Json.lt_tokens_list (i.args.map .word)).1
      rw [List.length_map] at hlt
      exact Nat.le_trans (Nat.le_of_lt hlt) hle
  exact (((((absorbs_opcode rfl i.opcode).append (absorbs_arg1 rfl harg1)).append
    (absorbs_arg2 rfl harg2)).append (absorbs_target rfl i.target)).append
    (absorbs_args rfl hargs)).append (absorbs_argCount rfl i.argCount)

theorem readsBack_read {fuel : Nat} {i : Instruction} (hfuel : (tokens i.toJson).length ≤ fuel) :
    ReadsBack (read fuel) toJson i := by
  intro ts
  obtain ⟨hlength, hfields⟩ := Json.lt_tokens_record i.fields
  have habsorbs : Absorbs (readField fuel) {} i.fields (.written i) :=
    absorbs_fields fun f hf => Nat.le_trans (Nat.le_of_lt (hfields f hf)) hfuel
  have hle : i.fields.length ≤ fuel := Nat.le_trans (Nat.le_of_lt hlength) hfuel
  obtain ⟨us, hus, hread⟩ := Json.readRecord_tokens LoadError.defect habsorbs hle ts
  rw [toJson, hus]
  simp only [read, Json.head, defect_ok, bind, Except.bind, hread,
    Draft.finish_written]

end Instruction

/-! ## Programs -/

namespace Program

theorem ofTokens_tokens (p : Program) : ofTokens (tokens p.toJson) = .ok p := by
  obtain ⟨hlength, hitems⟩ := Json.lt_tokens_list (p.instructions.toList.map Instruction.toJson)
  have hread : ∀ i ∈ p.instructions.toList,
      ReadsBack (Instruction.read (tokens p.toJson).length) Instruction.toJson i := by
    intro i hi
    exact Instruction.readsBack_read (Nat.le_of_lt (hitems _ (List.mem_map_of_mem hi)))
  have hle : p.instructions.toList.length ≤ (tokens p.toJson).length := by
    rw [List.length_map] at hlength
    exact Nat.le_of_lt hlength
  obtain ⟨us, hus, hlist⟩ := Json.readList_tokens LoadError.defect hread hle []
  rw [List.append_nil] at hus
  have hhead : Json.head (tokens p.toJson) = .ok (.list, us) := by
    rw [toJson, hus, Json.head]
  simp only [ofTokens, hhead, Instruction.defect_ok, bind, Except.bind, hlist,
    Json.finish, ofList, Array.toArray_toList]

/-- Loading the text of a program gives back the program: every instruction in its place,
with its tag, known or not, and its operands, target, registers and argument count. -/
theorem ofText_toText (p : Program) : ofText p.toText = .ok p := by
  rw [ofText, toText, Token.scan_toPrettyText p.fits_toJson]
  exact p.ofTokens_tokens

end Program

end RegisterMachine
