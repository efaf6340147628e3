import RegisterMachine.Host.Standard
import RegisterMachine.Proofs.Step

/-!
# More registers and deeper calls

A machine with more registers, or with a higher limit on the nesting of subroutines, does the
same as the smaller one as long as the smaller one does not run short, which is to say that no
instruction is refused for a register that is not there or for a call too deep. The registers
that are added stay at zero.

`Machine.enlarged` adds the registers and sets the limits, so the statement is an equation: to
enlarge and to step is to step and to enlarge (`Machine.step_enlarged`). Resolving is where a
difference could show. `Core.Agrees` says of two computations that they come to the same unless
the first runs short, and it goes through sequences of checks in their order, so an error that
comes first in the one comes first in the other.
-/

namespace RegisterMachine

variable {α τ : Type}

/-- The limits of one configuration are those of another or below, with the same number of
instructions. -/
structure Config.Within (c c' : Config) : Prop where
  registers : c.registerCount ≤ c'.registerCount
  depth : ∀ limit' ∈ c'.maxCallDepth, ∃ limit ∈ c.maxCallDepth, limit ≤ limit'
  steps : c'.maxSteps = c.maxSteps

/-- An error for want of a register or of room for a call. -/
def Error.isShortage : Error → Bool
  | .indexOutOfBounds .. => true
  | .callDepthExceeded _ => true
  | _ => false

namespace Registers

def padded (r : Registers) (extra : Nat) : Registers :=
  ⟨r.slots ++ Array.replicate extra default⟩

theorem ofCount_padded (count extra : Nat) :
    (ofCount count).padded extra = ofCount (count + extra) := by
  simp [padded, ofCount]

theorem count_padded (r : Registers) (extra : Nat) :
    (r.padded extra).count = r.count + extra := by
  simp [padded, count]

theorem get_padded {r : Registers} {index : Nat} (h : index < r.count) (extra : Nat) :
    (r.padded extra).get index = r.get index := by
  unfold count at h
  simp [get, padded, Array.getElem?_append_left h, h]

theorem write_padded {r : Registers} {index : Nat} (h : index < r.count) (v : Value)
    (extra : Nat) : (r.padded extra).write index v = (r.write index v).padded extra := by
  unfold count at h
  simp [write, padded, h]

end Registers

def Update.register? : Update → Option Nat
  | .write register _ => some register
  | .pop register _ => some register
  | .stay => none
  | .push _ => none
  | .jump _ => none
  | .call .. => none
  | .ret .. => none

namespace Core

def padded (c : Core) (extra : Nat) : Core := { c with registers := c.registers.padded extra }

/-! ## Resolving with more registers -/

/-- The second computation comes to the same as the first, unless that one runs short. -/
def Agrees {β : Type} (x y : Except Error β) : Prop :=
  y = x ∨ ∃ e, x = .error e ∧ e.isShortage = true

theorem Agrees.refl {β : Type} (x : Except Error β) : Agrees x x := .inl rfl

theorem Agrees.bind {β γ : Type} {x y : Except Error β} {f g : β → Except Error γ}
    (hx : Agrees x y) (hf : ∀ b, Agrees (f b) (g b)) : Agrees (x >>= f) (y >>= g) := by
  rcases hx with rfl | ⟨e, rfl, he⟩
  · cases y with
    | error e => exact .refl _
    | ok b => exact hf b
  · exact .inr ⟨e, rfl, he⟩

section Padded

variable (c : Core) (extra : Nat)

theorem agrees_get (index : Nat) :
    Agrees (c.registers.get index) ((c.padded extra).registers.get index) := by
  by_cases h : index < c.registers.count
  · exact .inl (Registers.get_padded h extra)
  · cases hget : c.registers.get index with
    | ok v => exact absurd ((Registers.exists_get_eq_ok_iff _ _).mp ⟨v, hget⟩) h
    | error e =>
        rw [Registers.get_eq_error hget]
        exact .inr ⟨_, rfl, rfl⟩

theorem agrees_check (index : Nat) :
    Agrees (c.registers.check index) ((c.padded extra).registers.check index) := by
  by_cases h : index < c.registers.count
  · refine .inl ?_
    have hmore : index < (c.padded extra).registers.count := by
      rw [padded, Registers.count_padded]
      omega
    rw [(Registers.check_eq_ok_iff _ _).mpr h, (Registers.check_eq_ok_iff _ _).mpr hmore]
  · refine .inr ⟨.indexOutOfBounds index c.registers.count, ?_, rfl⟩
    rw [Registers.check, if_neg h]

theorem agrees_arg1 (i : Instruction) (op : Opcode) :
    Agrees (c.arg1 i op) ((c.padded extra).arg1 i op) :=
  (Agrees.refl _).bind fun _ => c.agrees_get extra _

theorem agrees_arg2 (i : Instruction) (op : Opcode) :
    Agrees (c.arg2 i op) ((c.padded extra).arg2 i op) :=
  (Agrees.refl _).bind fun _ => c.agrees_get extra _

theorem agrees_target (i : Instruction) (op : Opcode) :
    Agrees (c.target i op) ((c.padded extra).target i op) :=
  (Agrees.refl _).bind fun _ => (c.agrees_check extra _).bind fun _ => .refl _

theorem agrees_result (i : Instruction) (op : Opcode) (v : Value) :
    Agrees (c.result i op v) ((c.padded extra).result i op v) :=
  (c.agrees_target extra i op).bind fun _ => .refl _

theorem agrees_numbers (i : Instruction) (op : Opcode) :
    Agrees (c.numbers i op) ((c.padded extra).numbers i op) :=
  (Agrees.refl _).bind fun _ => (Agrees.refl _).bind fun _ =>
    (c.agrees_get extra _).bind fun _ => (c.agrees_get extra _).bind fun _ => .refl _

theorem agrees_gather (ws : List UInt64) :
    Agrees (c.gather ws) ((c.padded extra).gather ws) := by
  induction ws with
  | nil => exact .refl _
  | cons w ws ih =>
      exact (c.agrees_get extra _).bind fun v => ih.bind fun vs => .refl _

theorem agrees_jumpIf (wanted : Bool) (i : Instruction) (op : Opcode) :
    Agrees (c.jumpIf wanted i op) ((c.padded extra).jumpIf wanted i op) :=
  (Agrees.refl _).bind fun _ => (c.agrees_arg1 extra i op).bind fun _ => .refl _

/-- A call looks at the limit last, so that a higher one makes no difference before. -/
theorem agrees_callFunc {maxDepth maxDepth' : Option Nat}
    (hdepth : ∀ limit' ∈ maxDepth', ∃ limit ∈ maxDepth, limit ≤ limit') (i : Instruction)
    (op : Opcode) :
    Agrees (c.callFunc maxDepth i op) ((c.padded extra).callFunc maxDepth' i op) := by
  refine (Agrees.refl _).bind fun register => (c.agrees_get extra _).bind fun v => ?_
  cases v with
  | address address =>
      show Agrees (if c.stack.size < i.argCount.toNat then _ else _)
        (if c.stack.size < i.argCount.toNat then _ else _)
      split
      · exact .refl _
      · cases hroom : maxDepth.filter (· ≤ c.calls.depth) with
        | some limit => exact .inr ⟨_, rfl, rfl⟩
        | none =>
            have hroom' : maxDepth'.filter (· ≤ (c.padded extra).calls.depth) = none := by
              rw [filter_le_eq_none_iff] at hroom ⊢
              intro limit' hlimit'
              obtain ⟨limit, hlimit, hle⟩ := hdepth limit' hlimit'
              exact Nat.lt_of_lt_of_le (hroom limit hlimit) hle
            simp only [hroom']
            exact .refl _
  | number | boolean | text | host => exact .refl _

theorem agrees_callMethod (i : Instruction) (op : Opcode) :
    Agrees (c.callMethod i op) ((c.padded extra).callMethod i op) := by
  refine (Agrees.refl _).bind fun register => (c.agrees_get extra _).bind fun v => ?_
  cases v with
  | host index =>
      refine (c.agrees_gather extra _).bind fun args => ?_
      cases i.target with
      | none => exact .refl _
      | some t => exact (c.agrees_check extra _).bind fun _ => .refl _
  | number | boolean | text | address => exact .refl _

/-- With more registers and a limit that is not lower, every instruction resolves to the same,
or is refused for the same reason, unless it ran short before. -/
theorem agrees_resolve {maxDepth maxDepth' : Option Nat}
    (hdepth : ∀ limit' ∈ maxDepth', ∃ limit ∈ maxDepth, limit ≤ limit') (hosts : Nat)
    (i : Instruction) (op : Opcode) :
    Agrees (c.resolve maxDepth hosts i op) ((c.padded extra).resolve maxDepth' hosts i op) := by
  cases op with
  | store => exact (Agrees.refl _).bind fun o => c.agrees_result extra i _ _
  | set => exact (c.agrees_arg1 extra i _).bind fun v => c.agrees_result extra i _ v
  | add =>
      exact (c.agrees_numbers extra i _).bind fun ab =>
        (Agrees.refl _).bind fun n => c.agrees_result extra i _ _
  | equals =>
      refine (c.agrees_arg1 extra i _).bind fun a => (c.agrees_arg2 extra i _).bind fun b => ?_
      cases a.equals? b with
      | some equal => exact c.agrees_result extra i _ _
      | none => exact .refl _
  | lessThan | lessThanEquals =>
      exact (c.agrees_numbers extra i _).bind fun ab => c.agrees_result extra i _ _
  | push | print => exact (c.agrees_arg1 extra i _).bind fun v => .refl _
  | pop => exact (c.agrees_target extra i _).bind fun t => .refl _
  | jump | ret | exit => exact .refl _
  | jumpIfTrue | jumpIfFalse => exact c.agrees_jumpIf extra _ i _
  | callFunc => exact c.agrees_callFunc extra hdepth i _
  | loadGlobal =>
      refine (Agrees.refl _).bind fun w => ?_
      split
      · exact c.agrees_result extra i _ _
      · exact .refl _
  | callMethod => exact c.agrees_callMethod extra i _

end Padded

/-! ## Changes with more registers -/

theorem apply_padded {c : Core} {u : Update} (h : ∀ t ∈ u.register?, t < c.registers.count)
    (extra : Nat) : (c.padded extra).apply u = (c.apply u).padded extra := by
  cases u with
  | stay | push | jump | call | ret => rfl
  | write register value | pop register value =>
      simp only [apply, padded, Registers.write_padded (h register rfl)]

theorem receive_padded {c : Core} {target : Option Nat} (h : ∀ t ∈ target, t < c.registers.count)
    (reply : Option Value) (extra : Nat) :
    Machine.receive (c.padded extra) target reply =
      (Machine.receive c target reply).padded extra := by
  cases target with
  | none => rfl
  | some t =>
      cases reply with
      | none => rfl
      | some v =>
          have hwrite : ∀ t' ∈ (Update.write t v).register?, t' < c.registers.count := h
          exact apply_padded hwrite extra

theorem Resolves.register_lt {c : Core} {maxDepth : Option Nat} {hosts : Nat} {i : Instruction}
    {op : Opcode} {u : Update} (h : c.Resolves maxDepth hosts i op (.update u)) :
    ∀ t ∈ u.register?, t < c.registers.count := by
  intro t ht
  cases h with
  | store _ htarget | set _ htarget | add _ _ _ htarget | equals _ _ _ htarget
  | lessThan _ _ htarget | lessThanEquals _ _ htarget | pop htarget _ _
  | loadGlobal _ _ htarget =>
      cases ht
      obtain ⟨w, -, -, hlt⟩ := htarget
      exact hlt
  | push | jump | callFunc | ret => cases ht
  | jumpIfTrue | jumpIfFalse =>
      split at ht
      · cases ht
      · cases ht

end Core

namespace Machine

def enlarged (m : Machine α τ) (c' : Config) : Machine α τ :=
  { m with
    config := c'
    core := m.core.padded (c'.registerCount - m.config.registerCount) }

theorem boot_enlarged {c c' : Config} (h : c.registerCount ≤ c'.registerCount) (p : Program)
    (w : World α τ) : (boot c p w).enlarged c' = boot c' p w := by
  have hcount : c.registerCount + (c'.registerCount - c.registerCount) = c'.registerCount :=
    Nat.add_sub_cancel' h
  simp only [enlarged, boot, Core.padded, Registers.ofCount_padded, hcount]

/-- Whether the next instruction is refused for want of a register or of room for a call. -/
def runsShort (m : Machine α τ) : Bool :=
  match m.resolution? with
  | some (.error e) => e.isShortage
  | _ => false

section Step

variable {E : Environment α τ} {m : Machine α τ} {c' : Config}

/-- An instruction that does not run short comes down to the same on the larger machine. -/
theorem effect_enlarged (hc : m.config.Within c') (hroom : m.runsShort = false) {i : Instruction}
    {op : Opcode} (hx : m.Executes i op) :
    (m.enlarged c').advance.effect i op = m.advance.effect i op := by
  rcases Core.agrees_resolve m.advance.core (c'.registerCount - m.config.registerCount)
    hc.depth m.world.hosts.size i op with hsame | ⟨e, he, hshort⟩
  · exact hsame
  · have hrefused : m.resolution? = some (.error e) :=
      (resolution?_eq_some_iff m _).mpr ⟨i, op, hx, he⟩
    simp only [runsShort, hrefused, hshort] at hroom
    cases hroom

/-- An effect whose registers have been checked is the same on the larger machine. -/
theorem perform_enlarged {maxDepth : Option Nat} {hosts : Nat} {i : Instruction} {op : Opcode}
    {e : Effect} (hr : m.core.Resolves maxDepth hosts i op e) :
    (m.enlarged c').perform E e =
      { m.perform E e with machine := (m.perform E e).machine.enlarged c' } := by
  have hcore : (m.enlarged c').core =
      m.core.padded (c'.registerCount - m.config.registerCount) := rfl
  have hworld : (m.enlarged c').world = m.world := rfl
  cases e with
  | update u =>
      simp only [perform, hcore, Core.apply_padded hr.register_lt]
      cases u with
      | stay | write | push | pop | jump | call | ret => rfl
  | print line => rfl
  | invoke host args target =>
      have htarget : ∀ t ∈ target, t < m.core.registers.count := by
        cases hr with
        | callMethod _ _ ht => simpa using ht
      simp only [perform, hcore, hworld, Core.receive_padded htarget]
      cases (m.world.invoke E host args).result with
      | ok reply => rfl
      | error e => rfl
  | exit => rfl

theorem step_enlarged (hc : m.config.Within c') (hroom : m.runsShort = false) :
    (m.enlarged c').step E = { m.step E with machine := (m.step E).machine.enlarged c' } := by
  have hstatus : (m.enlarged c').status = m.status := rfl
  have hcurrent : (m.enlarged c').current? = m.current? := rfl
  have hspent : (m.enlarged c').spentBudget? = m.spentBudget? := by
    show c'.maxSteps.filter (· ≤ m.steps) = m.config.maxSteps.filter (· ≤ m.steps)
    rw [hc.steps]
  rw [step_eq, step_eq]
  rw [hstatus, hcurrent, hspent]
  cases hs : m.status with
  | halted reason => rfl
  | running =>
      cases hi : m.current? with
      | none => rfl
      | some i =>
          cases hb : m.spentBudget? with
          | some limit => rfl
          | none =>
              cases hd : i.decode with
              | error e =>
                  simp only [execute, hd]
                  rfl
              | ok op =>
                  have heffect := effect_enlarged hc hroom ⟨hs, hi, hb, hd⟩
                  cases he : m.advance.effect i op with
                  | error e =>
                      simp only [execute, hd, heffect, he]
                      rfl
                  | ok e =>
                      have hperform : (m.enlarged c').advance.perform E e = _ :=
                        perform_enlarged (m := m.advance) (.of_resolve he)
                      simp only [execute, hd, heffect, he, hperform]
                      cases (m.advance.perform E e).result with
                      | ok _ => rfl
                      | error e => rfl

end Step

/-! ## Runs -/

theorem after_enlarged {E : Environment α τ} {m : Machine α τ} {c' : Config}
    (hc : m.config.Within c') {n : Nat} (hroom : ∀ j < n, (m.after E j).runsShort = false) :
    (m.enlarged c').after E n = (m.after E n).enlarged c' := by
  induction n with
  | zero => rfl
  | succ n ih =>
      have hwithin : (m.after E n).config.Within c' := by
        rw [config_after]
        exact hc
      rw [after_succ, ih fun j hj => hroom j (Nat.lt_succ_of_lt hj),
        step_enlarged hwithin (hroom n (Nat.lt_succ_self n))]
      rfl

/-- Two machines that differ in their limits only: the second has so many registers more, and
they are at zero. -/
structure PaddedBy (m m' : Machine α τ) (extra : Nat) : Prop where
  pc : m'.core.pc = m.core.pc
  fp : m'.core.fp = m.core.fp
  stack : m'.core.stack = m.core.stack
  calls : m'.core.calls = m.core.calls
  status : m'.status = m.status
  steps : m'.steps = m.steps
  world : m'.world = m.world
  registers : m'.core.registers.slots =
    m.core.registers.slots ++ Array.replicate extra (.number 0)

/-- Two machines for one program in one world, where the second has at least as many registers
and allows at least as deep calls. As long as the first one does not run short, the two have
come to the same results, step by step, and have reported the same; and they are in the same
state, where the registers that the second has in addition are at zero. -/
theorem larger_limits_agree (E : Environment α τ) (config config' : Config) (p : Program)
    (w : World α τ) (hlimits : config.Within config') (n : Nat)
    (hroom : ∀ j < n, ((boot config p w).after E j).runsShort = false) :
    (∀ j < n,
      (((boot config' p w).after E j).step E).result =
        (((boot config p w).after E j).step E).result ∧
      (((boot config' p w).after E j).step E).events =
        (((boot config p w).after E j).step E).events) ∧
    ((boot config p w).after E n).core.registers.count = config.registerCount ∧
    ((boot config p w).after E n).PaddedBy ((boot config' p w).after E n)
      (config'.registerCount - config.registerCount) := by
  have hafter : ∀ k ≤ n, (boot config' p w).after E k =
      ((boot config p w).after E k).enlarged config' := by
    intro k hk
    rw [← boot_enlarged hlimits.registers]
    exact after_enlarged hlimits fun j hj => hroom j (Nat.lt_of_lt_of_le hj hk)
  have hconfig : ∀ k, ((boot config p w).after E k).config = config := config_after E _
  refine ⟨?_, ?_, ?_⟩
  · intro j hj
    have hstep := step_enlarged (E := E) ((hconfig j).symm ▸ hlimits) (hroom j hj)
    rw [hafter j (Nat.le_of_lt hj), hstep]
    exact ⟨rfl, rfl⟩
  · exact (count_after E _ n).trans (Registers.count_ofCount _)
  · rw [hafter n (Nat.le_refl n)]
    refine ⟨rfl, rfl, rfl, rfl, rfl, rfl, rfl, ?_⟩
    show ((boot config p w).after E n).core.registers.slots ++ _ = _
    rw [hconfig]
    rfl

open Instruction in
/-- A subroutine that fails for the kinds of its operands, in the deepest frame and with the
last register that a small machine has. -/
def tightFit : Program := .ofList [
  store (.address 3) 0,
  callFunc 0 0,
  exit,
  set 0 1,
  add 0 1 1]

def tight : Config := { registerCount := 2, maxCallDepth := some 1 }

def roomy : Config := { registerCount := 5 }

theorem larger_limits_agree_tightFit :
    tight.Within roomy ∧
    (∀ j < 5, ((boot tight tightFit ⟨Standard.table {}, {}⟩).after
      Standard.scripted j).runsShort = false) ∧
    ((boot tight tightFit ⟨Standard.table {}, {}⟩).after Standard.scripted 5).status =
      .halted .fault ∧
    ((boot tight tightFit ⟨Standard.table {}, {}⟩).after Standard.scripted 5).PaddedBy
      ((boot roomy tightFit ⟨Standard.table {}, {}⟩).after Standard.scripted 5) 3 := by
  have hlimits : tight.Within roomy := by
    refine ⟨by decide, ?_, rfl⟩
    intro limit' h
    cases h
  have hroom : ∀ j < 5, ((boot tight tightFit ⟨Standard.table {}, {}⟩).after
      Standard.scripted j).runsShort = false := by decide
  exact ⟨hlimits, hroom, rfl,
    (larger_limits_agree Standard.scripted tight roomy tightFit _ hlimits 5 hroom).2.2⟩

end Machine

end RegisterMachine
