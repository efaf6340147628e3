import RegisterMachine.Proofs.Fault
import RegisterMachine.Proofs.ReturnAddress

/-!
# A push and the pop behind it

A push followed by a pop copies a register and leaves the data stack as it was. The pop
looks at the frame pointer first, so the two undo each other exactly if the data stack
reaches up to the frame pointer (`Machine.PushesThenPops.copies_iff`). Outside of
subroutines it always does, and so it does in a run in which every call takes its
arguments out of the frame that makes it. The return from any other call may leave the
stack shorter than the frame that it goes back to, and then what has been pushed is
counted as the caller's; a run in which that happens ends the module.
-/

namespace RegisterMachine

variable {α τ : Type}

theorem Core.resolve_pop_error {c : Core} {i : Instruction} {maxDepth : Option Nat}
    {hosts t : Nat} (ht : c.Targets i t) (h : c.stack.size ≤ c.fp) :
    c.resolve maxDepth hosts i .pop = .error .stackUnderflow := by
  have htarget := (target_eq_ok_iff c i .pop t).mpr ht
  simp only [resolve, htarget, frameTop, if_pos h, bind, Except.bind]

namespace Machine

/-- A push of register `a` comes next, and behind it a pop into register `t`. Both
registers are there, and the budget is enough for both instructions. -/
structure PushesThenPops (m : Machine α τ) (a t : Nat) : Prop where
  running : m.status = .running
  push : ∃ i w, m.current? = some i ∧ i.decode = .ok .push ∧
    i.arg1.bind Operand.index? = some w ∧ w.toNat = a
  pop : ∃ i w, m.program.fetch? (m.core.pc + 1) = some i ∧ i.decode = .ok .pop ∧
    i.target = some w ∧ w.toNat = t
  source : a < m.core.registers.count
  target : t < m.core.registers.count
  budget : ∀ limit ∈ m.config.maxSteps, m.steps + 2 ≤ limit

/-- The next two steps succeed and copy register `a` into register `t`. Nothing else
changes in the registers and on the stacks. -/
structure Copies (E : Environment α τ) (m : Machine α τ) (a t : Nat) : Prop where
  first : (m.step E).result = .ok ()
  second : ((m.after E 1).step E).result = .ok ()
  copied : (m.after E 2).core.registers.get t = m.core.registers.get a
  others : ∀ index, index ≠ t →
    (m.after E 2).core.registers.get index = m.core.registers.get index
  stack : (m.after E 2).core.stack = m.core.stack
  calls : (m.after E 2).core.calls = m.core.calls
  fp : (m.after E 2).core.fp = m.core.fp

namespace PushesThenPops

variable {m : Machine α τ} {a t : Nat}

theorem performs_push (h : m.PushesThenPops a t) :
    ∃ i v, m.core.registers.get a = .ok v ∧ m.Performs i .push (.update (.push v)) := by
  rcases h.push with ⟨i, w, hc, hd, hw, rfl⟩
  rcases (Registers.exists_get_eq_ok_iff _ _).mpr h.source with ⟨v, hv⟩
  have hb : m.spentBudget? = none := by
    rw [spentBudget?_eq_none_iff]
    intro limit hlimit
    have hle := h.budget limit hlimit
    omega
  exact ⟨i, v, hv, ⟨h.running, hc, hb, hd⟩, .push ⟨w, hw, hv⟩⟩

/-- When the push has been carried out, the pop is what comes next. -/
theorem executes_pop (h : m.PushesThenPops a t) (v : Value) :
    ∃ i, { m.advance with core := m.advance.core.apply (.push v) }.Executes i .pop ∧
      ∀ c : Core, c.registers.count = m.core.registers.count → c.Targets i t := by
  rcases h.pop with ⟨i, w, hc, hd, hw, rfl⟩
  refine ⟨i, ⟨h.running, hc, ?_, hd⟩, fun c hcount => ⟨w, hw, rfl, hcount ▸ h.target⟩⟩
  rw [spentBudget?_eq_none_iff]
  exact h.budget

theorem copies (E : Environment α τ) (h : m.PushesThenPops a t)
    (hreach : m.core.fp ≤ m.core.stack.size) : m.Copies E a t := by
  rcases h.performs_push with ⟨i, v, hv, hpush⟩
  rcases h.executes_pop v with ⟨j, hx, ht⟩
  have hfirst : m.after E 1 = { m.advance with core := m.advance.core.apply (.push v) } :=
    step_of_update hpush
  have hpop : (m.after E 1).Performs j .pop (.update (.pop t v)) := by
    rw [hfirst]
    refine ⟨hx, .pop (ht _ rfl) ?_ (DataStack.top_push _ v)⟩
    show m.core.fp < (m.core.stack.push v).size
    rw [DataStack.size_push]
    exact Nat.lt_succ_of_le hreach
  have hsecond : (m.after E 2).core =
      { m.core with
        registers := m.core.registers.write t v
        stack := (m.core.stack.push v).rest
        pc := m.core.pc + 1 + 1 } := by
    rw [after_succ, step_of_update hpop, hfirst]
    rfl
  refine ⟨hpush.completes.succeeds, hpop.completes.succeeds, ?_, ?_, ?_, ?_, ?_⟩
  · rw [hsecond, hv]
    exact Registers.get_write_self h.target v
  · intro index hne
    rw [hsecond]
    exact Registers.get_write_of_ne hne.symm v
  · rw [hsecond]
    exact DataStack.rest_push _ v
  · rw [hsecond]
  · rw [hsecond]

theorem underflows (E : Environment α τ) (h : m.PushesThenPops a t)
    (hshort : m.core.stack.size < m.core.fp) :
    ((m.after E 1).step E).result = .error .stackUnderflow := by
  rcases h.performs_push with ⟨i, v, -, hpush⟩
  rcases h.executes_pop v with ⟨j, hx, ht⟩
  have hfirst : m.after E 1 = { m.advance with core := m.advance.core.apply (.push v) } :=
    step_of_update hpush
  rw [hfirst, step_of_refused hx (Core.resolve_pop_error (ht _ rfl) ?_)]
  · rfl
  · show (m.core.stack.push v).size ≤ m.core.fp
    rw [DataStack.size_push]
    exact hshort

theorem copies_iff (E : Environment α τ) (h : m.PushesThenPops a t) :
    m.Copies E a t ↔ m.core.fp ≤ m.core.stack.size := by
  refine ⟨fun hcopies => ?_, h.copies E⟩
  by_contra hshort
  have hsecond := hcopies.second
  rw [h.underflows E (Nat.lt_of_not_le hshort)] at hsecond
  cases hsecond

end PushesThenPops

/-- In a run in which every call has taken its arguments out of the frame that made it,
the data stack reaches up to the frame pointer: no frame reaches below the one before. -/
theorem fp_le_size_of_own (E : Environment α τ) (config : Config) (p : Program) (w : World α τ)
    {k : Nat} (hown : ∀ j < k, ((boot config p w).after E j).TakesOwnArguments) :
    ((boot config p w).after E k).core.fp ≤ ((boot config p w).after E k).core.stack.size := by
  have hstart : (boot config p w).core.Isolated (boot config p w).core :=
    Core.isolated_of_le (Nat.zero_le _)
  have hisolated := (isolated_after_iff (E := E) (Nat.zero_le _) hstart k
    (fun _ _ => Nat.zero_le _)).mp hown
  exact (hisolated k (Nat.le_refl k)).length

/-- Wherever a run comes to a push and a pop behind it, the two copy a register and leave
everything else as it was exactly if the data stack reaches up to the frame pointer, and
the pop fails otherwise. The stack does reach up to it outside of subroutines, and
wherever every call so far has taken its arguments out of the frame that made it. -/
theorem push_pop_copies_iff (E : Environment α τ) (config : Config) (p : Program)
    (w : World α τ) (k a t : Nat) (h : ((boot config p w).after E k).PushesThenPops a t) :
    (((boot config p w).after E k).Copies E a t ↔
      ((boot config p w).after E k).core.fp ≤ ((boot config p w).after E k).core.stack.size) ∧
    (((boot config p w).after E k).core.stack.size < ((boot config p w).after E k).core.fp →
      (((boot config p w).after E k).step E).result = .ok () ∧
      ((((boot config p w).after E k).after E 1).step E).result = .error .stackUnderflow) ∧
    (((boot config p w).after E k).core.calls.depth = 0 ∨
      (∀ j < k, ((boot config p w).after E j).TakesOwnArguments) →
      ((boot config p w).after E k).Copies E a t) := by
  refine ⟨h.copies_iff E, ?_, ?_⟩
  · intro hshort
    rcases h.performs_push with ⟨i, v, -, hpush⟩
    exact ⟨hpush.completes.succeeds, h.underflows E hshort⟩
  · rintro (hdepth | hown)
    · have hfp := (rooted_after E config p w k).fp_eq_zero hdepth
      exact h.copies E (hfp ▸ Nat.zero_le _)
    · exact h.copies E (fp_le_size_of_own E config p w hown)

open Instruction in
/-- A subroutine, called above two values, calls another with so many arguments. When
that has returned, it copies register 0 into register 3 over the data stack. -/
def copyingCall (argCount : UInt64) : Program := .ofList [
  store (.int 1) 0,
  push 0,
  push 0,
  store (.address 6) 1,
  callFunc 1 0,
  exit,
  store (.address 10) 2,
  callFunc 2 argCount,
  push 0,
  pop 3,
  push 0,
  ret]

def copyingBoot (argCount : UInt64) : Machine (Standard Script) Transcript :=
  boot { registerCount := 4 } (copyingCall argCount) ⟨Standard.table {}, {}⟩

theorem copyingBoot_pushesThenPops : ∀ argCount ∈ [0, 2],
    ((copyingBoot argCount).after Standard.scripted 9).PushesThenPops 0 3 := by
  intro argCount h
  have hcases : argCount = 0 ∨ argCount = 2 := by simpa using h
  rcases hcases with rfl | rfl
  · exact ⟨by decide, ⟨.push 0, 0, by decide⟩, ⟨.pop 3, 3, by decide⟩, by decide, by decide, nofun⟩
  · exact ⟨by decide, ⟨.push 0, 0, by decide⟩, ⟨.pop 3, 3, by decide⟩, by decide, by decide, nofun⟩

/-- Behind a call without arguments the register is copied, inside of a subroutine. -/
theorem push_pop_copies_iff_nestedCall :
    ((copyingBoot 0).after Standard.scripted 9).PushesThenPops 0 3 ∧
    ((copyingBoot 0).after Standard.scripted 9).core.calls.depth = 1 ∧
    ((copyingBoot 0).after Standard.scripted 9).Copies Standard.scripted 0 3 := by
  have h := copyingBoot_pushesThenPops 0 (by simp)
  exact ⟨h, by decide, (push_pop_copies_iff _ _ _ _ 9 0 3 h).1.mpr (by decide)⟩

/-- A call that takes two arguments finds them below the frame that makes it. When it has
returned the stack is shorter than the frame pointer, and the pop does not find the
value that has just been pushed. -/
theorem overlapping_call_breaks_push_pop :
    ((copyingBoot 2).after Standard.scripted 9).PushesThenPops 0 3 ∧
    (((copyingBoot 2).after Standard.scripted 9).step Standard.scripted).result = .ok () ∧
    (((copyingBoot 2).after Standard.scripted 10).step Standard.scripted).result =
      .error .stackUnderflow ∧
    ¬((copyingBoot 2).after Standard.scripted 9).Copies Standard.scripted 0 3 := by
  have hfails : (((copyingBoot 2).after Standard.scripted 10).step Standard.scripted).result =
      .error .stackUnderflow := by decide
  refine ⟨copyingBoot_pushesThenPops 2 (by simp), by decide, hfails, fun hcopies => ?_⟩
  exact absurd (hfails.symm.trans hcopies.second) nofun

end Machine

end RegisterMachine
