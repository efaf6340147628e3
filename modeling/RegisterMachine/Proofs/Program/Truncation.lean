import RegisterMachine.Proofs.Json.EndOfInput
import RegisterMachine.Proofs.Program.Slots

/-!
# Programs whose text stops early

The text of a program that stops before its end is never loaded, and what is reported is
always the end of the input: wherever the cut is, no field is taken for absent, no shortened
number out of range, and no unfinished record for a whole one.

The fields of an instruction come in their order and each of them once.
`Instruction.Pending` is the invariant of the record: what is known are fields of the
instruction that have been met, and those to come have not.
-/

namespace RegisterMachine

open Json (Token Toward RunsOut Follows FollowsFields tokens)
open Json.Token (Shortens)

namespace Instruction

/-! ## Values of a field -/

theorem runsOut_of_head_error {α : Type} {us : List Token}
    {next : Json.Shape × List Token → Except LoadError (α × List Token)}
    (h : Json.head us = .error .endOfInput) :
    RunsOut LoadError.defect (defect (Json.head us) >>= next) := by
  rw [h]
  exact .inl rfl

theorem follows_readWord (size : Nat) (w : UInt64) :
    Follows LoadError.defect readWord Json.word size w where
  whole _ := readsBack_readWord w
  cut us hus _ := by
    rw [Json.word, Json.int, tokens, Json.Number.token_int] at hus
    rcases Json.head_of_shortens hus with hhead | ⟨n, k, hn, rfl, hk⟩
    · exact runsOut_of_head_error hhead
    · cases Json.Numeral.ofInt_inj (Token.number.inj hn)
      have hword : (w.toNat : Int) ≤ Text.maxWord := Int.ofNat_le.mpr (Text.word_le w)
      obtain ⟨hkmin, hkmax⟩ : 0 ≤ k ∧ k ≤ Text.maxWord :=
        hk.bounds (Int.le_refl 0) (by decide) ⟨Int.natCast_nonneg _, hword⟩
      have hhead := Json.head_int (Int.le_trans (by decide) hkmin) hkmax []
      have hk' : Text.toWord? k = some (.ofNat k.toNat) := if_pos ⟨hkmin, hkmax⟩
      refine .inr ⟨.ofNat k.toNat, ?_⟩
      simp only [readWord, hhead, defect_ok, bind, Except.bind, Json.Shape.toWord, hk', mismatch_ok]

theorem follows_readTag (size : Nat) (s : String) :
    Follows LoadError.defect readTag Json.text size s where
  whole _ := readsBack_readTag s
  cut us hus _ := by
    rw [tokens] at hus
    rcases Json.head_of_shortens hus with hhead | ⟨n, k, hn, -⟩
    · exact runsOut_of_head_error hhead
    · cases hn

theorem follows_readArgs (fuel : Nat) (args : List UInt64) :
    Follows LoadError.defect (readArgs fuel) (fun args => .list (args.map .word)) fuel args where
  whole hfuel := by
    have hlength := (Json.lt_tokens_list (args.map .word)).1
    rw [List.length_map] at hlength
    exact readsBack_readArgs (Nat.le_trans (Nat.le_of_lt hlength) hfuel)
  cut us hus hsize := by
    rcases Json.readList_of_shortens (fun w _ => follows_readWord fuel w) hus hsize hsize with
      rfl | ⟨vs, rfl, hread⟩
    · exact runsOut_of_head_error rfl
    · exact .inl hread

/-- An integer that loses digits still fits a signed word, so it is an operand. -/
theorem follows_readOperand (fuel : Nat) (o : Operand) :
    Follows LoadError.defect (readOperand fuel operandDepth) Operand.toJson fuel o where
  whole := readsBack_readOperand 124
  cut us hus hsize := by
    have hremains := Json.remains_of_shortens (o.fits_toJson 124) hus hsize
    rcases hremains with hread | ⟨n, k, ho, hk, hread⟩
    · left
      rw [readOperand, operandDepth, Json.depth, hread]
      rfl
    · cases o with
      | int m =>
          cases ho
          obtain ⟨hkmin, hkmax⟩ := hk.bounds (by decide) (by decide)
            ⟨Text.minInt64_le m, Text.le_maxInt64 m⟩
          have hk' : Text.toInt64? k = some (.ofInt k) := if_pos ⟨hkmin, hkmax⟩
          refine .inr ⟨.int (.ofInt k), ?_⟩
          rw [readOperand, operandDepth, Json.depth, hread]
          simp only [defect_ok, bind, Except.bind, Operand.ofJson?, hk', Option.map_some]
      | bool | text | address => cases ho

theorem runsOut_readOptional {α : Type} {read : List Token → Except LoadError (α × List Token)}
    {write : α → Json} {size : Nat} (h : ∀ a, Follows LoadError.defect read write size a)
    (hnull : ∀ a, write a ≠ .null) {o : Option α} (ho : o ≠ none) {us : List Token}
    (hus : Shortens (tokens (o.elim .null write)) us) (hsize : us.length ≤ size) :
    RunsOut LoadError.defect (readOptional read us) := by
  obtain ⟨a, rfl⟩ := Option.ne_none_iff_exists'.mp ho
  have hcut := (h a).cut us hus hsize
  obtain ⟨t, ts, hts, -, ht⟩ := Json.exists_tokens_eq_cons (write a)
  rw [Option.elim_some, hts] at hus
  have hne := hus.head_ne (fun heq => hnull a (ht heq)) fun _ hcut => nomatch hcut
  rw [readOptional]
  · rcases hcut with hread | ⟨b, hread⟩
    · rw [hread]
      exact .inl rfl
    · rw [hread]
      exact .inr ⟨some b, rfl⟩
  · exact hne

/-- A field that is written does not have its default, so it is never a null that is cut. -/
theorem runsOut_readSlot {i : Instruction} {slot : Slot} (h : ¬i.IsDefault slot) {fuel : Nat}
    {us : List Token} (hus : Shortens (tokens (i.slotJson slot)) us) (hsize : us.length ≤ fuel)
    (d : Draft) : RunsOut LoadError.defect (readSlot fuel d slot us) := by
  cases slot with
  | opcode =>
      have hread := (follows_readTag fuel i.opcode).cut us hus hsize
      exact hread.bind fun _ => .inr ⟨_, rfl⟩
  | arg1 =>
      have hread := runsOut_readOptional (follows_readOperand fuel) Operand.toJson_ne_null h hus
        hsize
      exact hread.bind fun _ => .inr ⟨_, rfl⟩
  | arg2 =>
      have hread := runsOut_readOptional (follows_readOperand fuel) Operand.toJson_ne_null h hus
        hsize
      exact hread.bind fun _ => .inr ⟨_, rfl⟩
  | target =>
      have hread := runsOut_readOptional (follows_readWord fuel) (fun _ => nofun) h hus hsize
      exact hread.bind fun _ => .inr ⟨_, rfl⟩
  | args =>
      have hread := (follows_readArgs fuel i.args).cut us hus hsize
      exact hread.bind fun _ => .inr ⟨_, rfl⟩
  | argCount =>
      have hread := (follows_readWord fuel i.argCount).cut us hus hsize
      exact hread.bind fun _ => .inr ⟨_, rfl⟩

/-! ## Instructions -/

/-- The fields to come are fields of the instruction that have to be written and have not been
met, and what is known are those that have. -/
def Pending (i : Instruction) (d : Draft) (fields : List (String × Json)) : Prop :=
  ∃ met slots : List Slot, d = .of i met ∧ fields = slots.map i.slotField ∧ slots.Nodup ∧
    ∀ slot ∈ slots, slot ∉ met ∧ ¬i.IsDefault slot

theorem pending_fields (i : Instruction) : i.Pending {} i.fields := by
  refine ⟨[], i.slots, (Draft.of_nil i).symm, i.fields_eq_map_slots, i.nodup_slots, ?_⟩
  intro slot hslot
  exact ⟨List.not_mem_nil, i.mem_slots.mp hslot⟩

/-- The next field is not met again among those to come. -/
theorem Pending.next {i : Instruction} {d : Draft} {k : String} {v : Json}
    {fields : List (String × Json)} (h : i.Pending d ((k, v) :: fields)) :
    ∃ met slot, d = .of i met ∧ (k, v) = i.slotField slot ∧ slot ∉ met ∧ ¬i.IsDefault slot ∧
      i.Pending (.of i (slot :: met)) fields := by
  obtain ⟨met, slots, rfl, hfields, hnodup, hslots⟩ := h
  obtain ⟨slot, rest, rfl, hslot, rfl⟩ := List.map_eq_cons_iff.mp hfields.symm
  obtain ⟨hmet, hdefault⟩ := hslots slot (by simp)
  obtain ⟨hrest, hnodup⟩ := List.nodup_cons.mp hnodup
  refine ⟨met, slot, rfl, hslot.symm, hmet, hdefault, slot :: met, rest, rfl, rfl, hnodup, ?_⟩
  intro other hother
  obtain ⟨hother_met, hother_default⟩ := hslots other (List.mem_cons_of_mem _ hother)
  refine ⟨?_, hother_default⟩
  rw [List.mem_cons, not_or]
  exact ⟨fun heq => hrest (heq ▸ hother), hother_met⟩

theorem followsFields_readField (i : Instruction) (fuel : Nat) :
    FollowsFields LoadError.defect (readField fuel) fuel i.Pending where
  whole := by
    intro d k v fields h hsize
    obtain ⟨met, slot, rfl, hslot, hmet, -, hrest⟩ := h.next
    cases hslot
    exact ⟨_, readField_of hmet hsize, hrest⟩
  cut := by
    intro d k v fields h us hus hsize
    obtain ⟨met, slot, rfl, hslot, hmet, hdefault, -⟩ := h.next
    cases hslot
    have hhas : (Draft.of i met).has slot = false := by
      rw [Draft.has_of]
      exact decide_eq_false hmet
    rcases hus.of_cons nofun with rfl | ⟨vs, rfl, hvs⟩
    · left
      rw [readField, Slot.ofName?_name]
      simp only [hhas, Bool.false_eq_true, if_false]
      rfl
    · rw [readField_name hhas]
      rw [List.length_cons] at hsize
      exact runsOut_readSlot hdefault hvs (by omega) _

/-- An instruction whose tokens stop early is not read. -/
theorem follows_read (fuel : Nat) (i : Instruction) :
    Follows LoadError.defect (read fuel) toJson fuel i where
  whole := readsBack_read
  cut us hus hsize := by
    rcases Json.readRecord_of_shortens (i.followsFields_readField fuel) i.pending_fields hus hsize
      hsize with rfl | ⟨vs, rfl, hread⟩
    · exact .inl rfl
    · left
      simp only [read, Json.head, defect_ok, bind, Except.bind, hread]

end Instruction

/-! ## Programs -/

namespace Program

theorem ofTokens_of_shortens {p : Program} {us : List Token} (h : Shortens (tokens p.toJson) us) :
    ofTokens us = .error (.defect .endOfInput) := by
  rcases Json.readList_of_shortens (fun i _ => Instruction.follows_read us.length i) h
    (Nat.le_refl _) (Nat.le_refl _) with rfl | ⟨vs, rfl, hread⟩
  · rfl
  · simp only [ofTokens, Json.head, Instruction.defect_ok, bind, Except.bind, hread]

/-- The text of a program that stops before its end, at whatever character, is not loaded:
the end of the input is reported. -/
theorem ofText_of_prefix (p : Program) {s : String} (h : s.toList <+: p.toText.toList)
    (hne : s ≠ p.toText) : ofText s = .error (.defect .endOfInput) := by
  have htext : p.toText.toList = Json.pretty 0 p.toJson := by
    rw [toText, Json.toPrettyText, String.toList_ofList]
  have hlist : s.toList ≠ Json.pretty 0 p.toJson := by
    rw [← htext]
    exact fun heq => hne (String.toList_inj.mp heq)
  rw [htext] at h
  exact ofTokens_of_shortens (Token.shortens_of_prefix p.fits_toJson h hlist)

def controlled : Program := .ofList [{ opcode := "st\x01re", arg1 := some (.int (-70)) }]

def cutInCode : String := "[\n  \x7b\n    \"opcode\": \"st\\u00"

def cutInNumber : String := "[\n  \x7b\n    \"opcode\": \"st\\u0001re\",\n    \"arg1\": -7"

theorem ofText_of_prefix_controlled :
    (cutInCode.toList <+: controlled.toText.toList ∧ cutInCode ≠ controlled.toText ∧
      ofText cutInCode = .error (.defect .endOfInput)) ∧
    cutInNumber.toList <+: controlled.toText.toList ∧ cutInNumber ≠ controlled.toText ∧
      ofText cutInNumber = .error (.defect .endOfInput) := by
  have hcode : cutInCode.toList <+: controlled.toText.toList ∧ cutInCode ≠ controlled.toText := by
    decide +kernel
  have hnumber :
      cutInNumber.toList <+: controlled.toText.toList ∧ cutInNumber ≠ controlled.toText := by
    decide +kernel
  exact ⟨⟨hcode.1, hcode.2, controlled.ofText_of_prefix hcode.1 hcode.2⟩,
    hnumber.1, hnumber.2, controlled.ofText_of_prefix hnumber.1 hnumber.2⟩

end Program

end RegisterMachine
