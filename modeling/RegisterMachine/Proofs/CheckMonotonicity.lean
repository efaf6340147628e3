import RegisterMachine.Proofs.CheckCompleteness

/-!
# How the check depends on its bounds

The diagnostics of a program come in the order of its instructions, at most one for each. Since
the check of an instruction stops at its first problem, larger bounds may bring out another problem
of the same instruction. What they never do is to report an instruction that was in order before
(`Bounds.operands_mono`).

For a program that is followed by another one more can be said. The registers and the host slots
are those that they were, and only jumps look at the length. `Bounds.reconsider` is what becomes of
the verdict on an instruction, message and all (`Bounds.instruction_withLength`).
-/

namespace RegisterMachine

def Opcode.isJump : Opcode → Bool
  | .jump | .jumpIfTrue | .jumpIfFalse => true
  | _ => false

namespace Bounds

structure Within (b b' : Bounds) : Prop where
  registers : b.registers ≤ b'.registers
  hosts : b.hosts ≤ b'.hosts
  length : b.length ≤ b'.length

/-! ## Larger bounds -/

section Mono

variable {b b' : Bounds} {i : Instruction} {op : Opcode}

theorem register_mono (h : b.Within b') {w : UInt64} (hw : b.register w = .ok ()) :
    b'.register w = .ok () := by
  rw [register_eq_ok_iff] at hw ⊢
  exact Nat.lt_of_lt_of_le hw h.registers

theorem host_mono (h : b.Within b') {w : UInt64} (hw : b.host w = .ok ()) :
    b'.host w = .ok () := by
  rw [host_eq_ok_iff] at hw ⊢
  exact Nat.lt_of_lt_of_le hw h.hosts

theorem jump_eq_ok_iff (b : Bounds) (w : UInt64) : b.jump w = .ok () ↔ w.toNat ≤ b.length := by
  unfold jump
  split
  · next h => simp [h]
  · next h => simp [h]

theorem jump_mono (h : b.Within b') {w : UInt64} (hw : b.jump w = .ok ()) :
    b'.jump w = .ok () := by
  rw [jump_eq_ok_iff] at hw ⊢
  exact Nat.le_trans hw h.length

theorem eachRegister_mono (h : b.Within b') {ws : List UInt64}
    (hws : b.eachRegister ws = .ok ()) : b'.eachRegister ws = .ok () := by
  rw [eachRegister_eq_ok_iff] at hws ⊢
  exact fun w hw => Nat.lt_of_lt_of_le (hws w hw) h.registers

/-- An operand is fetched without regard to the bounds; then it is compared with them. -/
theorem lift_mono {x : Except InstructionError UInt64} {f f' : UInt64 → Except Problem Unit}
    (hf : ∀ w, f w = .ok () → f' w = .ok ()) (h : (lift x >>= f) = .ok ()) :
    (lift x >>= f') = .ok () := by
  obtain ⟨w, hw, hok⟩ := (bind_eq_ok_iff _ _ _).mp h
  exact (bind_eq_ok_iff _ _ _).mpr ⟨w, hw, hf w hok⟩

theorem arg1_mono (h : b.Within b') (hi : b.arg1 i op = .ok ()) : b'.arg1 i op = .ok () :=
  lift_mono (fun _ => register_mono h) hi

theorem arg2_mono (h : b.Within b') (hi : b.arg2 i op = .ok ()) : b'.arg2 i op = .ok () :=
  lift_mono (fun _ => register_mono h) hi

theorem target_mono (h : b.Within b') (hi : b.target i op = .ok ()) : b'.target i op = .ok () :=
  lift_mono (fun _ => register_mono h) hi

/-- Operands that pass go on to pass when the bounds grow. -/
theorem operands_mono (h : b.Within b') (hi : b.operands i op = .ok ()) :
    b'.operands i op = .ok () := by
  cases op with
  | store =>
      obtain ⟨o, ho, ht⟩ := (bind_eq_ok_iff _ _ _).mp hi
      exact (bind_eq_ok_iff _ _ _).mpr ⟨o, ho, target_mono h ht⟩
  | set =>
      simp only [operands, bind_unit_eq_ok_iff] at hi ⊢
      exact ⟨arg1_mono h hi.1, target_mono h hi.2⟩
  | add | equals | lessThan | lessThanEquals =>
      simp only [operands, bind_unit_eq_ok_iff] at hi ⊢
      exact ⟨arg1_mono h hi.1, arg2_mono h hi.2.1, target_mono h hi.2.2⟩
  | push | print | callFunc => exact arg1_mono h hi
  | pop => exact target_mono h hi
  | jump => exact lift_mono (fun _ => jump_mono h) hi
  | jumpIfTrue | jumpIfFalse =>
      simp only [operands, bind_unit_eq_ok_iff] at hi ⊢
      exact ⟨arg1_mono h hi.1, lift_mono (fun _ => jump_mono h) hi.2⟩
  | loadGlobal =>
      -- The slot is fetched once, and the target is looked at behind it.
      refine lift_mono (f := fun w => do b.host w; b.target i .loadGlobal) ?_ hi
      intro w hw
      rw [bind_unit_eq_ok_iff] at hw ⊢
      exact ⟨host_mono h hw.1, target_mono h hw.2⟩
  | callMethod =>
      simp only [operands, bind_unit_eq_ok_iff] at hi ⊢
      refine ⟨arg1_mono h hi.1, eachRegister_mono h hi.2.1, ?_⟩
      have ht := hi.2.2
      cases htarget : i.target with
      | none => rfl
      | some t =>
          rw [htarget] at ht
          exact register_mono h ht
  | ret | exit => rfl

theorem instruction_mono (h : b.Within b') (hi : b.instruction i = .ok ()) :
    b'.instruction i = .ok () := by
  obtain ⟨op, hop, hoperands⟩ := (bind_eq_ok_iff _ _ _).mp hi
  exact (bind_eq_ok_iff _ _ _).mpr ⟨op, hop, operands_mono h hoperands⟩

end Mono

/-! ## Longer programs -/

/-- What becomes of a verdict in a longer program. A jump that went too far may stay inside now,
and otherwise goes past another end. All else is as it was. -/
def reconsider (length : Nat) : Except Problem Unit → Except Problem Unit
  | .error (.jump target _) =>
    if target ≤ length then .ok () else .error (.jump target length)
  | verdict => verdict

theorem reconsider_of_ne_jump (length : Nat) {verdict : Except Problem Unit}
    (h : ∀ target past, verdict ≠ .error (.jump target past)) :
    reconsider length verdict = verdict := by
  unfold reconsider
  split
  · next target past => exact absurd rfl (h target past)
  · rfl

def withLength (b : Bounds) (length : Nat) : Bounds := { b with length := length }

section Length

variable {b : Bounds} {i : Instruction} {op : Opcode} {length : Nat}

theorem within_withLength (h : b.length ≤ length) : b.Within (b.withLength length) :=
  ⟨Nat.le_refl _, Nat.le_refl _, h⟩

theorem eachRegister_withLength (b : Bounds) (length : Nat) (ws : List UInt64) :
    (b.withLength length).eachRegister ws = b.eachRegister ws := by
  induction ws with
  | nil => rfl
  | cons w ws ih =>
      simp only [eachRegister, ih]
      rfl

theorem operands_withLength_of_not_isJump (hop : op.isJump = false) :
    (b.withLength length).operands i op = b.operands i op := by
  cases op with
  | jump | jumpIfTrue | jumpIfFalse => cases hop
  | callMethod =>
      simp only [operands, eachRegister_withLength]
      rfl
  | _ => rfl

theorem jump_withLength (h : b.length ≤ length) (w : UInt64) :
    (b.withLength length).jump w = reconsider length (b.jump w) := by
  by_cases hw : w.toNat ≤ b.length
  · have hok : b.jump w = .ok () := (jump_eq_ok_iff b w).mpr hw
    rw [hok, jump_mono (within_withLength h) hok]
    rfl
  · simp only [jump, hw, if_false, reconsider]
    rfl

/-- A target that is missing stays missing, and one that is there is compared with the length. -/
theorem lift_jump_withLength (h : b.length ≤ length) (x : Except InstructionError UInt64) :
    (lift x >>= (b.withLength length).jump) = reconsider length (lift x >>= b.jump) := by
  cases x with
  | error cause => rfl
  | ok w => exact jump_withLength h w

/-- The register of a condition is looked at first, and the length has no part in that. -/
theorem jumpIf_withLength (h : b.length ≤ length) :
    (do (b.withLength length).arg1 i op
        (b.withLength length).jump (← lift (i.targetIndex op))) =
      reconsider length (do b.arg1 i op; b.jump (← lift (i.targetIndex op))) := by
  have hsame : (b.withLength length).arg1 i op = b.arg1 i op := rfl
  rw [hsame]
  cases hi : b.arg1 i op with
  | ok _ => exact lift_jump_withLength h _
  | error problem =>
      refine (reconsider_of_ne_jump length ?_).symm
      rintro target past ⟨⟩
      simp [arg1, bind_eq_error_iff, lift_eq_error_iff, register_eq_error_iff] at hi

theorem isJump_of_operands {target past : Nat}
    (h : b.operands i op = .error (.jump target past)) : op.isJump = true := by
  obtain ⟨-, -, -, -, rfl | ⟨rfl | rfl, -⟩⟩ := operands_eq_jump h
  all_goals rfl

/-- In a longer program the verdict on the operands is the old one, reconsidered. -/
theorem operands_withLength (h : b.length ≤ length) :
    (b.withLength length).operands i op = reconsider length (b.operands i op) := by
  cases hop : op.isJump with
  | false =>
      rw [operands_withLength_of_not_isJump hop, reconsider_of_ne_jump]
      intro target past hjump
      rw [isJump_of_operands hjump] at hop
      cases hop
  | true =>
      cases op with
      | jump => exact lift_jump_withLength h _
      | jumpIfTrue | jumpIfFalse => exact jumpIf_withLength h
      | _ => cases hop

theorem instruction_withLength (h : b.length ≤ length) :
    (b.withLength length).instruction i = reconsider length (b.instruction i) := by
  unfold instruction
  cases i.decode with
  | error cause => rfl
  | ok op => exact operands_withLength h

end Length

theorem reconsider_eq_error {length : Nat} {verdict : Except Problem Unit} {problem : Problem}
    (h : reconsider length verdict = .error problem) : ∃ problem', verdict = .error problem' := by
  cases verdict with
  | ok _ => cases h
  | error problem' => exact ⟨problem', rfl⟩

/-- Only a jump that went too far is withdrawn, and only if it stays inside now. -/
theorem eq_jump_of_reconsider {length : Nat} {problem : Problem}
    (h : reconsider length (.error problem) = .ok ()) :
    ∃ target past, problem = .jump target past ∧ target ≤ length := by
  cases problem with
  | jump target past =>
      refine ⟨target, past, rfl, ?_⟩
      by_cases hle : target ≤ length
      · exact hle
      · simp [reconsider, hle] at h
  | _ => cases h

end Bounds

/-! ## Reported places -/

namespace Program

def reported (p : Program) (registers hosts : Nat) : List Nat :=
  (p.check registers hosts).map Diagnostic.pc

theorem mem_reported_iff (p : Program) (registers hosts pc : Nat) :
    pc ∈ p.reported registers hosts ↔
      ∃ i problem, p.fetch? pc = some i ∧
        (p.bounds registers hosts).instruction i = .error problem := by
  simp only [reported, List.mem_map, mem_check_iff]
  constructor
  · rintro ⟨d, ⟨i, hi, herror⟩, rfl⟩
    exact ⟨i, d.problem, hi, herror⟩
  · rintro ⟨i, problem, hi, herror⟩
    exact ⟨⟨pc, problem⟩, ⟨i, hi, herror⟩, rfl⟩

theorem pairwise_reported (p : Program) (registers hosts : Nat) :
    (p.reported registers hosts).Pairwise (· < ·) := by
  have hplaces : p.instructions.toList.zipIdx.Pairwise fun a b => a.2 < b.2 := by
    rw [← List.pairwise_map, List.zipIdx_map_snd]
    exact List.pairwise_lt_range'
  rw [reported, List.pairwise_map]
  refine hplaces.filterMap _ ?_
  intro a b hlt d hd e he
  obtain ⟨_, -, rfl⟩ := Option.map_eq_some_iff.mp hd
  obtain ⟨_, -, rfl⟩ := Option.map_eq_some_iff.mp he
  exact hlt

theorem lt_length_of_mem_reported {p : Program} {registers hosts pc : Nat}
    (h : pc ∈ p.reported registers hosts) : pc < p.length := by
  obtain ⟨i, -, hi, -⟩ := (mem_reported_iff p registers hosts pc).mp h
  exact (Array.getElem?_eq_some_iff.mp hi).1

theorem reported_subset (p : Program) {r r' h h' : Nat} (hr : r ≤ r') (hh : h ≤ h') :
    p.reported r' h' ⊆ p.reported r h := by
  intro pc hpc
  obtain ⟨i, problem, hi, herror⟩ := (mem_reported_iff p r' h' pc).mp hpc
  cases hverdict : (p.bounds r h).instruction i with
  | error problem' => exact (mem_reported_iff p r h pc).mpr ⟨i, problem', hi, hverdict⟩
  | ok _ =>
      have hwithin : (p.bounds r h).Within (p.bounds r' h') := ⟨hr, hh, Nat.le_refl _⟩
      rw [Bounds.instruction_mono hwithin hverdict] at herror
      cases herror

section Append

variable {p : Program} {pc : Nat}

theorem fetch?_append (hpc : pc < p.length) (q : Program) : (p ++ q).fetch? pc = p.fetch? pc :=
  Array.getElem?_append_left hpc

/-- What is reported in front of the end of a program when another follows it. -/
theorem mem_reported_append_iff (hpc : pc < p.length) (q : Program) (registers hosts : Nat) :
    pc ∈ (p ++ q).reported registers hosts ↔
      ∃ i problem, p.fetch? pc = some i ∧
        Bounds.reconsider (p ++ q).length ((p.bounds registers hosts).instruction i) =
          .error problem := by
  have hlength : (p.bounds registers hosts).length ≤ (p ++ q).length := by
    rw [length_append]
    exact Nat.le_add_right _ _
  have hbounds : (p ++ q).bounds registers hosts =
      (p.bounds registers hosts).withLength (p ++ q).length := rfl
  simp only [mem_reported_iff, fetch?_append hpc, hbounds, Bounds.instruction_withLength hlength]

theorem mem_reported_of_append (hpc : pc < p.length) {q : Program} {registers hosts : Nat}
    (h : pc ∈ (p ++ q).reported registers hosts) : pc ∈ p.reported registers hosts := by
  obtain ⟨i, problem, hi, herror⟩ := (mem_reported_append_iff hpc q registers hosts).mp h
  obtain ⟨problem', hverdict⟩ := Bounds.reconsider_eq_error herror
  exact (mem_reported_iff p registers hosts pc).mpr ⟨i, problem', hi, hverdict⟩

/-- An instruction that is no longer reported when another program follows jumps past the end of
the one and not past the end of the other. -/
theorem jumps_of_not_mem_append {q : Program} {registers hosts : Nat}
    (h : pc ∈ p.reported registers hosts) (hnot : pc ∉ (p ++ q).reported registers hosts) :
    ∃ i op w, p.fetch? pc = some i ∧ i.decode = .ok op ∧ op.isJump = true ∧
      i.target = some w ∧ p.length < w.toNat ∧ w.toNat ≤ (p ++ q).length := by
  obtain ⟨i, problem, hi, hverdict⟩ := (mem_reported_iff p registers hosts pc).mp h
  rw [mem_reported_append_iff (lt_length_of_mem_reported h)] at hnot
  -- Reconsidered, the verdict is no problem, or it would be reported again.
  have hok : Bounds.reconsider (p ++ q).length (.error problem) = .ok () := by
    cases hagain : Bounds.reconsider (p ++ q).length (.error problem) with
    | ok _ => rfl
    | error problem' => exact absurd ⟨i, problem', hi, hverdict ▸ hagain⟩ hnot
  obtain ⟨target, past, rfl, hle⟩ := Bounds.eq_jump_of_reconsider hok
  simp only [Bounds.instruction, bind_eq_error_iff, Bounds.lift_eq_error_iff,
    Bounds.lift_eq_ok_iff] at hverdict
  rcases hverdict with ⟨cause, -, hcause⟩ | ⟨op, hop, hoperands⟩
  · cases hcause
  · obtain ⟨w, hw, rfl, hlt, -⟩ := Bounds.operands_eq_jump hoperands
    exact ⟨i, op, w, hi, hop, Bounds.isJump_of_operands hoperands, hw, hlt, hle⟩

end Append

/-- The check of a program reports places of the program, in their order and each at most once.
With more registers and host functions it reports none that it did not report before. With another
program behind it reports none in front that it did not report before, and those that it no longer
reports are jumps that went past the end. -/
theorem check_ordered_monotone (p q : Program) {r r' h h' : Nat} (hr : r ≤ r') (hh : h ≤ h') :
    (p.reported r h).Pairwise (· < ·) ∧
    (∀ pc ∈ p.reported r h, pc < p.length) ∧
    p.reported r' h' ⊆ p.reported r h ∧
    (∀ pc ∈ (p ++ q).reported r h, pc < p.length → pc ∈ p.reported r h) ∧
    ∀ pc ∈ p.reported r h, pc ∉ (p ++ q).reported r h →
      ∃ i op w, p.fetch? pc = some i ∧ i.decode = .ok op ∧ op.isJump = true ∧
        i.target = some w ∧ p.length < w.toNat ∧ w.toNat ≤ (p ++ q).length := by
  refine ⟨p.pairwise_reported r h, ?_, p.reported_subset hr hh, ?_, ?_⟩
  · intro pc hpc
    exact lt_length_of_mem_reported hpc
  · intro pc hpc hlt
    exact mem_reported_of_append hlt hpc
  · intro pc hpc hnot
    exact jumps_of_not_mem_append hpc hnot

/-- A handle that is not there for a register that is not there, and two jumps that go too far,
the second on a register that is not there. -/
def unbounded : Program := .ofList [.loadGlobal 5 9, .jump 4, .jumpIfTrue 7 4]

/-- With larger bounds the first and the last instruction are reported for something else, and
with an instruction behind them the jump is in order. -/
theorem check_ordered_monotone_unbounded :
    unbounded.check 4 2 = [⟨0, .host 5⟩, ⟨1, .jump 4 3⟩, ⟨2, .register 7 4⟩] ∧
    unbounded.check 8 6 = [⟨0, .register 9 8⟩, ⟨1, .jump 4 3⟩, ⟨2, .jump 4 3⟩] ∧
    (unbounded ++ ofList [.exit]).reported 4 2 = [0, 2] ∧
    (unbounded.reported 4 2).Pairwise (· < ·) ∧
    unbounded.reported 8 6 ⊆ unbounded.reported 4 2 ∧
    ∃ i op w, unbounded.fetch? 1 = some i ∧ i.decode = .ok op ∧ op.isJump = true ∧
      i.target = some w ∧ unbounded.length < w.toNat ∧
      w.toNat ≤ (unbounded ++ ofList [.exit]).length := by
  obtain ⟨hpairwise, -, hsubset, -, hjump⟩ :=
    check_ordered_monotone unbounded (ofList [.exit]) (by decide : 4 ≤ 8) (by decide : 2 ≤ 6)
  exact ⟨by decide, by decide, by decide, hpairwise, hsubset,
    hjump 1 (by decide) (by decide)⟩

end Program

end RegisterMachine
