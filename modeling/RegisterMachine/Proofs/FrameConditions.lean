import RegisterMachine.Proofs.FrameIsolation

/-!
# Frame conditions

What an instruction that succeeds leaves alone. `Machine.Framed` lists it by the parts of
a machine: which register may differ and for which operations, when the data stack and the saved
frames move, and where the machine goes on. Whether operands name the same register makes
no difference, since an instruction reads all of them before it writes.

`Machine.Yields` is the core that an effect leaves behind, so each condition is a case
analysis over effects, or over operations where the condition tells them apart.
-/

namespace RegisterMachine

variable {α τ : Type}

def Opcode.writesTarget : Opcode → Bool
  | .store | .set | .add | .equals | .lessThan | .lessThanEquals => true
  | .pop | .loadGlobal | .callMethod => true
  | .push | .jump | .jumpIfTrue | .jumpIfFalse | .callFunc | .ret | .print | .exit => false

namespace Core

/-- A jump is taken: always, or if its register holds just the truth value that it waits for. -/
def TakesJump (c : Core) (i : Instruction) : Opcode → Prop
  | .jump => True
  | .jumpIfTrue => c.Reads i.arg1 (.boolean true)
  | .jumpIfFalse => c.Reads i.arg1 (.boolean false)
  | _ => False

/-- Where an operation makes a machine go on: at the target of a jump that is taken, at the address
of a subroutine, behind the call that is returned from, or else at the next instruction. -/
inductive GoesTo (c : Core) (i : Instruction) (op : Opcode) : Nat → Prop
  | jump {t : UInt64} (htaken : c.TakesJump i op) (ht : i.target = some t) :
      GoesTo c i op t.toNat
  | call {address : UInt64} (hop : op = .callFunc) (ha : c.Reads i.arg1 (.address address)) :
      GoesTo c i op address.toNat
  | ret {frame : Frame} (hop : op = .ret) (hframe : c.calls.top = .ok frame) :
      GoesTo c i op frame.returnPc
  | next (htaken : ¬c.TakesJump i op) (hcall : op ≠ .callFunc) (hret : op ≠ .ret) :
      GoesTo c i op (c.pc + 1)

end Core

namespace Machine

/-- The core that the effect of an instruction leaves behind, if the world has played its part. -/
inductive Yields (E : Environment α τ) (m : Machine α τ) : Effect → Core → Prop
  | update (u : Update) : Yields E m (.update u) (m.advance.core.apply u)
  | print (line : String) : Yields E m (.print line) m.advance.core
  | invoke {host : Nat} {args : List Value} (target : Option Nat) {reply : Option Value}
      (hw : (m.world.invoke E host args).result = .ok reply) :
      Yields E m (.invoke host args target) (receive m.advance.core target reply)
  | exit : Yields E m .exit m.advance.core

section Yields

variable {E : Environment α τ} {m : Machine α τ} {i : Instruction} {op : Opcode} {e : Effect}
  {c : Core}

theorem Completes.yields (h : m.Completes E i op) :
    ∃ e, m.Performs i op e ∧ m.Yields E e (m.step E).machine.core := by
  rcases h.performs with ⟨e, hp⟩
  refine ⟨e, hp, ?_⟩
  have heffect : m.advance.effect i op = .ok e := hp.resolves.resolve
  have hok := h.succeeds
  rw [step_eq_execute h.toExecutes] at hok ⊢
  simp only [execute, h.decoded, heffect] at hok ⊢
  cases e with
  | update u => exact .update u
  | print line =>
      simp only [perform] at hok ⊢
      split
      · exact .print line
      · exact .print line
  | invoke host args target =>
      have hworld : m.advance.world = m.world := rfl
      simp only [perform, hworld] at hok ⊢
      cases hw : (m.world.invoke E host args).result with
      | ok reply => exact .invoke target hw
      | error err =>
          rw [hw] at hok
          cases hok
  | exit => exact .exit

/-! ## The conditions, part by part -/

/-- A change of the core writes no register but the one in the target. -/
theorem Performs.get_apply {u : Update} {index : Nat} (hp : m.Performs i op (.update u))
    (h : i.target.map UInt64.toNat ≠ some index) :
    (m.advance.core.apply u).registers.get index = m.core.registers.get index := by
  cases hp.resolves with
  | store _ ht | set _ ht | add _ _ _ ht | equals _ _ _ ht | lessThan _ _ ht
  | lessThanEquals _ _ ht | loadGlobal _ _ ht | pop ht _ _ =>
      exact Registers.get_write_of_ne (ht.ne h) _
  | jumpIfTrue | jumpIfFalse =>
      split
      · rfl
      · rfl
  | push | jump | callFunc | ret => rfl

theorem Yields.get_of_ne {index : Nat} (hy : m.Yields E e c) (hp : m.Performs i op e)
    (h : i.target.map UInt64.toNat ≠ some index) :
    c.registers.get index = m.core.registers.get index := by
  cases hy with
  | update u => exact hp.get_apply h
  | print | exit => rfl
  | invoke target hw =>
      cases hp.resolves with
      | callMethod =>
          unfold receive
          split
          · next t v ht =>
              have hne : t ≠ index := by
                rintro rfl
                exact h ht
              exact Registers.get_write_of_ne hne v
          · rfl

theorem Yields.count_eq (hy : m.Yields E e c) : c.registers.count = m.core.registers.count := by
  cases hy with
  | update u => exact count_apply _ u
  | print | exit => rfl
  | invoke target hw => exact count_receive _ _ _

theorem Yields.registers_eq (hy : m.Yields E e c) (hp : m.Performs i op e)
    (hop : op.writesTarget = false) : c.registers = m.core.registers := by
  cases hp.resolves with
  | store | set | add | equals | lessThan | lessThanEquals | pop | loadGlobal | callMethod =>
      cases hop
  | jumpIfTrue | jumpIfFalse =>
      cases hy
      split
      · rfl
      · rfl
  | push | jump | callFunc | ret | print | exit =>
      cases hy
      rfl

/-- A host call writes a register only with a value from the host and a target to put it. -/
theorem Yields.reply (hy : m.Yields E e c) (hp : m.Performs i .callMethod e) :
    ∃ host args reply, m.Performs i .callMethod (.invoke host args (i.target.map UInt64.toNat)) ∧
      (m.world.invoke E host args).result = .ok reply ∧
      (i.target = none ∨ reply = none → c.registers = m.core.registers) := by
  have hsame := hp
  cases hp.resolves with
  | callMethod =>
      cases hy with
      | invoke target hw =>
          refine ⟨_, _, _, hsame, hw, ?_⟩
          rintro (htarget | rfl)
          · rw [htarget]
            rfl
          · cases i.target with
            | none => rfl
            | some t => rfl

theorem Yields.goesTo (hy : m.Yields E e c) (hp : m.Performs i op e) :
    m.core.GoesTo i op c.pc := by
  cases hp.resolves with
  | jump hw =>
      cases hy
      exact .jump trivial hw
  | jumpIfTrue hw hv | jumpIfFalse hw hv =>
      cases hy
      split
      · next hwanted =>
          rw [hwanted] at hv
          exact .jump hv hw
      · next hwanted =>
          exact .next (fun htaken => hwanted (hv.unique htaken).symm) nofun nofun
  | callFunc ha =>
      cases hy
      exact .call rfl ha
  | ret hframe =>
      cases hy
      exact .ret rfl hframe
  | callMethod =>
      cases hy
      unfold receive
      split
      · exact .next id nofun nofun
      · exact .next id nofun nofun
  | _ =>
      cases hy
      exact .next id nofun nofun

end Yields

section Moves

variable {m : Machine α τ} {i i' : Instruction} {op op' : Opcode} {c : Core}

theorem Moves.stack_eq (hm : m.Moves c) (hx : m.Executes i op) (hpush : op ≠ .push)
    (hpop : op ≠ .pop) (hret : op ≠ .ret) : c.stack = m.core.stack := by
  cases hm with
  | still hstack _ _ => exact hstack
  | call _ _ hstack _ _ _ => exact hstack
  | push hp _ _ _ => exact absurd (hp.unique hx).2 hpush
  | pop hp _ _ _ _ => exact absurd (hp.unique hx).2 hpop
  | ret hp _ _ _ _ _ _ _ => exact absurd (hp.unique hx).2 hret

theorem Moves.frames_eq (hm : m.Moves c) (hx : m.Executes i op) (hcall : op ≠ .callFunc)
    (hret : op ≠ .ret) : c.calls = m.core.calls ∧ c.fp = m.core.fp := by
  cases hm with
  | still _ hcalls hfp | push _ _ hcalls hfp | pop _ _ _ hcalls hfp => exact ⟨hcalls, hfp⟩
  | call hp _ _ _ _ _ => exact absurd (hp.unique hx).2 hcall
  | ret hp _ _ _ _ _ _ _ => exact absurd (hp.unique hx).2 hret

end Moves

/-! ## One step -/

/-- What an instruction that has succeeded leaves of a machine: nothing has changed but its target
and what its operation is there to change. -/
structure Framed (E : Environment α τ) (m : Machine α τ) (i : Instruction) (op : Opcode)
    (m' : Machine α τ) : Prop where
  count : m'.core.registers.count = m.core.registers.count
  other : ∀ index, i.target.map UInt64.toNat ≠ some index →
    m'.core.registers.get index = m.core.registers.get index
  unwritten : op.writesTarget = false → m'.core.registers = m.core.registers
  -- A host call writes only if the host had a value to give and the call a place to put it.
  reply : op = .callMethod → ∃ host args reply,
    m.Performs i .callMethod (.invoke host args (i.target.map UInt64.toNat)) ∧
    (m.world.invoke E host args).result = .ok reply ∧
    (i.target = none ∨ reply = none → m'.core.registers = m.core.registers)
  push : op = .push → ∃ v, m.core.Reads i.arg1 v ∧ m'.core.stack = m.core.stack.push v
  pop : op = .pop → ∃ v, m.core.stack = m'.core.stack.push v
  stack : op ≠ .push → op ≠ .pop → op ≠ .ret → m'.core.stack = m.core.stack
  frames : op ≠ .callFunc → op ≠ .ret → m'.core.calls = m.core.calls ∧ m'.core.fp = m.core.fp
  pc : m.core.GoesTo i op m'.core.pc
  program : m'.program = m.program
  config : m'.config = m.config

theorem Completes.push {E : Environment α τ} {m : Machine α τ} {i : Instruction}
    (h : m.Completes E i .push) :
    ∃ v, m.core.Reads i.arg1 v ∧ (m.step E).machine.core.stack = m.core.stack.push v := by
  rcases h.performs with ⟨e, hp⟩
  have hsame := hp
  cases hp.resolves with
  | push hv =>
      rw [step_of_update hsame]
      exact ⟨_, hv, rfl⟩

theorem Completes.pop {E : Environment α τ} {m : Machine α τ} {i : Instruction}
    (h : m.Completes E i .pop) : ∃ v, m.core.stack = (m.step E).machine.core.stack.push v := by
  rcases h.performs with ⟨e, hp⟩
  have hsame := hp
  cases hp.resolves with
  | pop ht hfp hv =>
      rw [step_of_update hsame]
      exact ⟨_, DataStack.eq_push_of_top hv⟩

/-- A step that succeeds, on a machine in any state: the registers keep their number and differ at
most in the target, the data stack moves by a push, a pop or a return only, the frames by a call or
a return only, and the machine goes on at the next instruction unless it jumps, calls or returns. -/
theorem step_framed (E : Environment α τ) (m : Machine α τ) (i : Instruction)
    (hs : m.status = .running) (hc : m.current? = some i) (hok : (m.step E).result = .ok ()) :
    ∃ op, i.decode = .ok op ∧ m.Framed E i op (m.step E).machine := by
  rcases completes_of_ok hs hc hok with ⟨op, h⟩
  rcases h.yields with ⟨e, hp, hy⟩
  have ht := transition_step E m
  refine ⟨op, h.decoded, hy.count_eq, fun index hne => hy.get_of_ne hp hne, hy.registers_eq hp,
    ?_, ?_, ?_, ht.moves.stack_eq h.toExecutes, ht.moves.frames_eq h.toExecutes, hy.goesTo hp,
    ht.program_eq, ht.config_eq⟩
  · rintro rfl
    exact hy.reply hp
  · rintro rfl
    exact h.push
  · rintro rfl
    exact h.pop

/-- A host call whose target is the register of the handle, and of its argument. -/
def aliasedCall : Machine (Standard Script) Transcript where
  config := {}
  program := .ofList [.callMethod 0 [0] (some 0)]
  core := { registers := ⟨#[.host 0, .number 5]⟩, stack := ⟨#[.boolean true]⟩ }
  world := ⟨Standard.table { responses := [.text "yes"] }, {}⟩

/-- The handle is gone after the call, and nothing else. -/
theorem step_framed_aliasedCall :
    (aliasedCall.step Standard.scripted).result = .ok () ∧
    (aliasedCall.step Standard.scripted).machine.core.registers = ⟨#[.text "yes", .number 5]⟩ ∧
    ∃ op, (Instruction.callMethod 0 [0] (some 0)).decode = .ok op ∧
      aliasedCall.Framed Standard.scripted (.callMethod 0 [0] (some 0)) op
        (aliasedCall.step Standard.scripted).machine :=
  ⟨rfl, rfl, step_framed Standard.scripted aliasedCall _ rfl rfl rfl⟩

end Machine

end RegisterMachine
