import RegisterMachine.Proofs.CheckSoundness
import RegisterMachine.Proofs.Fault
import RegisterMachine.Proofs.FrameConditions
import RegisterMachine.Proofs.Halting

/-!
# Completeness of the structural check

What the structural check reports, the machine does not get past. The machine may well find
another fault first, a register with the wrong kind of value or an empty stack, so its error
need not be the one that the check has in mind. That it fails at all is shown backwards: an
instruction that comes down to an effect, on whatever core, passes the check, except that it
may jump too far (`Bounds.operands_of_resolves`).

A jump past the end of the program is the one report that is no fault. Such a jump succeeds,
and if it is taken the machine finds no instruction there and stops.
-/

namespace RegisterMachine

variable {α τ : Type}

/-- A diagnostic is reported exactly for an instruction with that problem, at its place. -/
theorem Program.mem_check_iff (p : Program) (registers hosts : Nat) (d : Diagnostic) :
    d ∈ p.check registers hosts ↔
      ∃ i, p.fetch? d.pc = some i ∧
        (p.bounds registers hosts).instruction i = .error d.problem := by
  obtain ⟨pc, problem⟩ := d
  simp only [check, List.mem_filterMap, Option.map_eq_some_iff, Bounds.problem?, Prod.exists]
  constructor
  · rintro ⟨i, k, hmem, p', hp', hd⟩
    cases hd
    rw [List.mk_mem_zipIdx_iff_getElem?, Array.getElem?_toList] at hmem
    refine ⟨i, hmem, ?_⟩
    split at hp'
    · cases hp'
    · next herror =>
        cases hp'
        exact herror
  · rintro ⟨i, hi, herror⟩
    refine ⟨i, pc, ?_, problem, ?_, rfl⟩
    · rw [List.mk_mem_zipIdx_iff_getElem?, Array.getElem?_toList]
      exact hi
    · rw [herror]

namespace Bounds

/-! ## What is reported -/

theorem lift_eq_error_iff {β : Type} (x : Except InstructionError β) (p : Problem) :
    lift x = .error p ↔ ∃ cause, x = .error cause ∧ p = .instruction cause := by
  cases x with
  | ok b => simp [lift, Except.mapError]
  | error cause => simp [lift, Except.mapError, eq_comm]

theorem register_eq_error_iff (b : Bounds) (w : UInt64) (p : Problem) :
    b.register w = .error p ↔ b.registers ≤ w.toNat ∧ p = .register w.toNat b.registers := by
  unfold register
  split
  · next h => simp [Nat.not_le.mpr h]
  · next h => simp [Nat.not_lt.mp h, eq_comm]

theorem host_eq_error_iff (b : Bounds) (w : UInt64) (p : Problem) :
    b.host w = .error p ↔ b.hosts ≤ w.toNat ∧ p = .host w.toNat := by
  unfold host
  split
  · next h => simp [Nat.not_le.mpr h]
  · next h => simp [Nat.not_lt.mp h, eq_comm]

theorem jump_eq_error_iff (b : Bounds) (w : UInt64) (p : Problem) :
    b.jump w = .error p ↔ b.length < w.toNat ∧ p = .jump w.toNat b.length := by
  unfold jump
  split
  · next h => simp [Nat.not_lt.mpr h]
  · next h => simp [Nat.not_le.mp h, eq_comm]

theorem eachRegister_eq_error {b : Bounds} {ws : List UInt64} {p : Problem}
    (h : b.eachRegister ws = .error p) : ∃ w, p = .register w b.registers := by
  induction ws with
  | nil => cases h
  | cons w ws ih =>
      rcases (bind_eq_error_iff _ _ _).mp h with hregister | ⟨-, -, hrest⟩
      · exact ⟨_, ((register_eq_error_iff b w p).mp hregister).2⟩
      · exact ih hrest

/-- Only jumps are reported for where they go. -/
theorem operands_eq_jump {b : Bounds} {i : Instruction} {op : Opcode} {target length : Nat}
    (h : b.operands i op = .error (.jump target length)) :
    ∃ w, i.target = some w ∧ w.toNat = target ∧ b.length < target ∧
      (op = .jump ∨ (op = .jumpIfTrue ∨ op = .jumpIfFalse) ∧ b.arg1 i op = .ok ()) := by
  have harg1 : b.arg1 i op ≠ .error (.jump target length) := by
    simp [arg1, bind_eq_error_iff, lift_eq_error_iff, register_eq_error_iff]
  have harg2 : b.arg2 i op ≠ .error (.jump target length) := by
    simp [arg2, bind_eq_error_iff, lift_eq_error_iff, register_eq_error_iff]
  have htarget : b.target i op ≠ .error (.jump target length) := by
    simp [Bounds.target, bind_eq_error_iff, lift_eq_error_iff, register_eq_error_iff]
  cases op with
  | jump =>
      simp only [operands, bind_eq_error_iff, lift_eq_error_iff, lift_eq_ok_iff,
        jump_eq_error_iff, Instruction.targetIndex_eq_ok_iff] at h
      rcases h with ⟨_, _, hp⟩ | ⟨w, hw, hlt, hp⟩
      · cases hp
      · cases hp
        exact ⟨w, hw, rfl, hlt, .inl rfl⟩
  | jumpIfTrue | jumpIfFalse =>
      simp only [operands, bind_eq_error_iff, lift_eq_error_iff, lift_eq_ok_iff,
        jump_eq_error_iff, Instruction.targetIndex_eq_ok_iff] at h
      rcases h with hp | ⟨⟨⟩, hok, ⟨_, _, hp⟩ | ⟨w, hw, hlt, hp⟩⟩
      · exact absurd hp harg1
      · cases hp
      · cases hp
        exact ⟨w, hw, rfl, hlt, .inr ⟨by simp, hok⟩⟩
  | callMethod =>
      simp only [operands, bind_eq_error_iff] at h
      rcases h with hp | ⟨-, -, hp | ⟨-, -, hp⟩⟩
      · exact absurd hp harg1
      · rcases eachRegister_eq_error hp with ⟨w, hw⟩
        cases hw
      · split at hp
        · simp [register_eq_error_iff] at hp
        · cases hp
  | store | set | add | equals | lessThan | lessThanEquals | push | pop | callFunc | ret
  | loadGlobal | print | exit =>
      simp [operands, bind_eq_error_iff, lift_eq_error_iff, host_eq_error_iff, harg1, harg2,
        htarget] at h

/-! ## What resolves is not reported -/

variable {b : Bounds} {c : Core} {i : Instruction} {op : Opcode} {v : Value}

/-- An operand that the machine can read names a register that is there. -/
theorem operand_of_reads {o : Option Operand} {field : Field} (h : c.Reads o v)
    (hc : c.registers.count = b.registers) :
    (lift (Instruction.operandIndex op field o) >>= b.register) = .ok () := by
  rcases h with ⟨w, hw, hv⟩
  simp only [bind_eq_ok_iff, lift_eq_ok_iff, register_eq_ok_iff,
    Instruction.operandIndex_eq_ok_iff]
  exact ⟨w, hw, hc ▸ (Registers.exists_get_eq_ok_iff _ _).mp ⟨v, hv⟩⟩

theorem arg1_of_reads (h : c.Reads i.arg1 v) (hc : c.registers.count = b.registers) :
    b.arg1 i op = .ok () :=
  operand_of_reads h hc

theorem arg2_of_reads (h : c.Reads i.arg2 v) (hc : c.registers.count = b.registers) :
    b.arg2 i op = .ok () :=
  operand_of_reads h hc

theorem target_of_targets {t : Nat} (h : c.Targets i t) (hc : c.registers.count = b.registers) :
    b.target i op = .ok () := by
  rcases h with ⟨w, hw, rfl, hlt⟩
  simp only [target, bind_eq_ok_iff, lift_eq_ok_iff, register_eq_ok_iff,
    Instruction.targetIndex_eq_ok_iff]
  exact ⟨w, hw, hc ▸ hlt⟩

theorem lift_targetIndex {w : UInt64} (hw : i.target = some w) : lift (i.targetIndex op) = .ok w :=
  (lift_eq_ok_iff _ _).mpr ((Instruction.targetIndex_eq_ok_iff i op w).mpr hw)

theorem jump_cases (b : Bounds) (w : UInt64) :
    b.jump w = .ok () ∨ ∃ target, b.jump w = .error (.jump target b.length) := by
  unfold jump
  split
  · exact .inl rfl
  · exact .inr ⟨_, rfl⟩

/-- An instruction that comes down to an effect passes the check, unless it jumps too far. -/
theorem operands_of_resolves {maxDepth : Option Nat} {e : Effect}
    (h : c.Resolves maxDepth b.hosts i op e) (hc : c.registers.count = b.registers) :
    b.operands i op = .ok () ∨ ∃ target, b.operands i op = .error (.jump target b.length) := by
  cases h with
  | store ho ht =>
      left
      simp only [operands, bind_eq_ok_iff, lift_eq_ok_iff, Instruction.literal_eq_ok_iff]
      exact ⟨_, ho, target_of_targets ht hc⟩
  | set hv ht =>
      left
      simp only [operands, bind_unit_eq_ok_iff]
      exact ⟨arg1_of_reads hv hc, target_of_targets ht hc⟩
  | add ha hb _ ht | equals ha hb _ ht | lessThan ha hb ht | lessThanEquals ha hb ht =>
      left
      simp only [operands, bind_unit_eq_ok_iff]
      exact ⟨arg1_of_reads ha hc, arg2_of_reads hb hc, target_of_targets ht hc⟩
  | push hv | print hv | callFunc hv => exact .inl (arg1_of_reads hv hc)
  | pop ht => exact .inl (target_of_targets ht hc)
  | jump hw =>
      simp only [operands, lift_targetIndex hw, bind, Except.bind]
      exact jump_cases b _
  | jumpIfTrue hw hv | jumpIfFalse hw hv =>
      simp only [operands, arg1_of_reads hv hc, lift_targetIndex hw, bind, Except.bind]
      exact jump_cases b _
  | loadGlobal hw hhost ht =>
      left
      simp only [operands, bind_eq_ok_iff, lift_eq_ok_iff, Instruction.arg1Index_eq_ok_iff]
      exact ⟨_, hw, (), (host_eq_ok_iff b _).mpr hhost, target_of_targets ht hc⟩
  | callMethod hw hargs ht =>
      left
      simp only [operands, bind_unit_eq_ok_iff, eachRegister_eq_ok_iff]
      refine ⟨arg1_of_reads hw hc, ?_, ?_⟩
      · rw [← hc]
        exact (Core.exists_gather_eq_ok_iff c i.args).mp ⟨_, hargs⟩
      · split
        · next t htarget => exact (register_eq_ok_iff b t).mpr (hc ▸ ht t htarget)
        · rfl
  | ret | exit => exact .inl rfl

/-- A jump that goes too far is resolved all the same. -/
theorem resolves_of_jump {maxDepth : Option Nat} {target length : Nat}
    (h : b.operands i op = .error (.jump target length)) (hc : c.registers.count = b.registers) :
    ∃ u, c.Resolves maxDepth b.hosts i op (.update u) := by
  rcases operands_eq_jump h with ⟨w, hw, -, -, rfl | ⟨hop, harg1⟩⟩
  · exact ⟨_, .jump hw⟩
  · obtain ⟨index, v, hindex, hv⟩ := exists_arg1 harg1 hc
    have hreads : c.Reads i.arg1 v :=
      ⟨index, (Instruction.arg1Index_eq_ok_iff i op index).mp hindex, hv⟩
    rcases hop with rfl | rfl
    · exact ⟨_, .jumpIfTrue hw hreads⟩
    · exact ⟨_, .jumpIfFalse hw hreads⟩

end Bounds

theorem Core.GoesTo.eq_target {c : Core} {i : Instruction} {op : Opcode} {pc : Nat} {w : UInt64}
    (h : c.GoesTo i op pc) (htaken : c.TakesJump i op) (hw : i.target = some w) :
    pc = w.toNat := by
  cases h with
  | jump _ ht =>
      rw [hw] at ht
      cases ht
      rfl
  | call hop =>
      rw [hop] at htaken
      exact htaken.elim
  | ret hop =>
      rw [hop] at htaken
      exact htaken.elim
  | next hnot => exact absurd htaken hnot

namespace Machine

def bounds (m : Machine α τ) : Bounds :=
  m.program.bounds m.core.registers.count m.world.hosts.size

section Reported

variable {m : Machine α τ} {i : Instruction}

/-- An instruction that is reported, but not as a jump that goes too far, is refused before the
world is asked for anything: the outcome is the same whatever the world is. -/
theorem refused_of_reported {p : Problem} (hs : m.status = .running)
    (hb : m.spentBudget? = none) (hc : m.current? = some i)
    (hp : m.bounds.instruction i = .error p) (hjump : ∀ target length, p ≠ .jump target length) :
    ∃ e events, (∀ E : Environment α τ, m.step E = m.advance.fail m.core.pc i e events) ∧
      events.countP Event.isHostCall = 0 := by
  cases hd : i.decode with
  | error cause =>
      exact ⟨.instruction cause, [], fun E => step_of_undecoded hs hc hb hd, rfl⟩
  | ok op =>
      simp only [Bounds.instruction, hd, Bounds.lift, Except.mapError, bind, Except.bind] at hp
      have hx : m.Executes i op := ⟨hs, hc, hb, hd⟩
      cases he : m.advance.effect i op with
      | error e => exact ⟨e, _, fun E => step_of_refused hx he, rfl⟩
      | ok effect =>
          -- An effect would mean that the check has nothing to say, or only where the jump goes.
          have hresolves : m.advance.core.Resolves m.config.maxCallDepth m.bounds.hosts i op
              effect := .of_resolve he
          rcases Bounds.operands_of_resolves hresolves rfl with hok | ⟨target, herror⟩
          · rw [hok] at hp
            cases hp
          · rw [herror] at hp
            cases hp
            exact absurd rfl (hjump _ _)

theorem jumps_of_reported {target length : Nat} (hs : m.status = .running)
    (hb : m.spentBudget? = none) (hc : m.current? = some i)
    (hp : m.bounds.instruction i = .error (.jump target length)) :
    ∃ op w u, m.Performs i op (.update u) ∧ i.target = some w ∧ w.toNat = target ∧
      m.program.length < target := by
  simp only [Bounds.instruction, bind_eq_error_iff, Bounds.lift_eq_error_iff,
    Bounds.lift_eq_ok_iff] at hp
  rcases hp with ⟨cause, -, hcause⟩ | ⟨op, hd, hoperands⟩
  · cases hcause
  · obtain ⟨w, hw, htarget, hlt, -⟩ := Bounds.operands_eq_jump hoperands
    obtain ⟨u, hu⟩ := Bounds.resolves_of_jump (c := m.advance.core) hoperands rfl
    exact ⟨op, w, u, ⟨⟨hs, hc, hb, hd⟩, hu⟩, hw, htarget, hlt⟩

/-- Behind a jump that goes too far there is no instruction. -/
theorem ended_of_takesJump {E : Environment α τ} {op : Opcode} {u : Update} {w : UInt64}
    (hp : m.Performs i op (.update u)) (hw : i.target = some w)
    (hlt : m.program.length < w.toNat) (htaken : m.core.TakesJump i op) :
    (m.step E).machine.core.pc = w.toNat ∧
      (m.step E).machine.step E =
        ⟨{ (m.step E).machine with status := .halted .endOfProgram }, .ok (), []⟩ := by
  obtain ⟨e, hperforms, hyields⟩ := (hp.completes (E := E)).yields
  have hpc : (m.step E).machine.core.pc = w.toNat :=
    (hyields.goesTo hperforms).eq_target htaken hw
  refine ⟨hpc, step_of_length_le_pc ?_ ?_⟩
  · rw [step_of_update hp]
    exact hp.running
  · rw [hpc, (transition_step E m).program_eq]
    exact Nat.le_of_lt hlt

end Reported

/-- Wherever the check of a program reports something, a machine with the registers and the host
functions that it was made for does not get past it. In whatever state it comes there, its step
fails and asks nothing of the world, so that the outcome is the same in every environment. The one
exception is a jump past the end of the program: that step succeeds, and if the jump is taken
the next step stops the machine for want of an instruction. -/
theorem check_complete (m : Machine α τ) (d : Diagnostic) (hs : m.status = .running)
    (hb : m.spentBudget? = none) (hpc : m.core.pc = d.pc)
    (hd : d ∈ m.program.check m.core.registers.count m.world.hosts.size) :
    ((∀ target length, d.problem ≠ .jump target length) →
      ∃ (o : Outcome α τ) (e : Error), (∀ E, m.step E = o) ∧ o.result = .error e ∧
        o.machine.world = m.world ∧ o.events.countP Event.isHostCall = 0) ∧
    ∀ target length, d.problem = .jump target length →
      m.program.length < target ∧ ∃ i op, m.Executes i op ∧
      ∀ E, (m.step E).result = .ok () ∧
        (m.core.TakesJump i op →
          (m.step E).machine.core.pc = target ∧
          (m.step E).machine.step E =
            ⟨{ (m.step E).machine with status := .halted .endOfProgram }, .ok (), []⟩) := by
  obtain ⟨i, hfetch, hp⟩ := (Program.mem_check_iff _ _ _ d).mp hd
  rw [← hpc] at hfetch
  constructor
  · intro hjump
    obtain ⟨e, events, hstep, hevents⟩ := refused_of_reported hs hb hfetch hp hjump
    refine ⟨_, e, hstep, rfl, rfl, ?_⟩
    simp [fail, hevents, Event.isHostCall]
  · intro target length hjump
    rw [hjump] at hp
    obtain ⟨op, w, u, hperforms, hw, rfl, hlt⟩ := jumps_of_reported hs hb hfetch hp
    exact ⟨hlt, i, op, hperforms.toExecutes, fun E =>
      ⟨hperforms.completes.succeeds, ended_of_takesJump hperforms hw hlt⟩⟩

/-- A host call that would succeed but for the register in its target, and a jump that is taken
out of the program. -/
def misdirected (pc : Nat) : Machine (Standard Script) Transcript where
  config := {}
  program := .ofList [.callMethod 0 [1] (some 7), .jumpIfTrue 2 9]
  core := { registers := ⟨#[.host 0, .text "name?", .boolean true]⟩, pc := pc }
  world := ⟨Standard.table { responses := [.text "x"] }, {}⟩

/-- The call is refused before the host hears of it, and the jump ends the run. -/
theorem check_complete_misdirected :
    (misdirected 0).program.check 3 2 = [⟨0, .register 7 3⟩, ⟨1, .jump 9 2⟩] ∧
    (∃ o e, (∀ E, (misdirected 0).step E = o) ∧ o.result = .error e ∧
      o.machine.world = (misdirected 0).world ∧ o.events.countP Event.isHostCall = 0) ∧
    (((misdirected 1).step Standard.scripted).machine.step Standard.scripted).machine.status =
      .halted .endOfProgram := by
  have hcall := check_complete (misdirected 0) ⟨0, .register 7 3⟩ rfl rfl rfl (by decide)
  have hjump := check_complete (misdirected 1) ⟨1, .jump 9 2⟩ rfl rfl rfl (by decide)
  obtain ⟨-, i, op, hx, hsteps⟩ := hjump.2 9 2 rfl
  have hx' : (misdirected 1).Executes (.jumpIfTrue 2 9) .jumpIfTrue := ⟨rfl, rfl, rfl, by decide⟩
  obtain ⟨rfl, rfl⟩ := hx'.unique hx
  have hnext := ((hsteps Standard.scripted).2 ⟨2, rfl, rfl⟩).2
  refine ⟨by decide, hcall.1 nofun, ?_⟩
  rw [hnext]

end Machine

end RegisterMachine
