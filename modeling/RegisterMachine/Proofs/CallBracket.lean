import RegisterMachine.Proofs.CallStack

/-!
# Calls and their returns

A call and the return that brings the machine back to the depth of the call form a
bracket, whatever happens in between: the caller goes on behind its call, with its own
frame and its own saved frames, and with one value in place of the arguments.

The invariant is `Core.Open`: as long as a frame is open, the frames saved up to its call
are the oldest ones, and its frame pointer waits for the calls made since. It says nothing
of the values on the stack. Those below the frame are the caller's, and they are kept if
every call in between takes its arguments out of the frame that makes it, which is the
condition of `Machine.isolated_after_iff`.
-/

namespace RegisterMachine

variable {α τ : Type}

namespace Core

/-- A frame is still open, seen from the core in which a call had just opened it. -/
structure Open (opened c : Core) : Prop where
  saved : c.calls.frames.toList.take opened.calls.depth = opened.calls.frames.toList
  pointer : (c.pointers opened.calls.depth).head? = some opened.fp

theorem take_frames_of_depth_le {c : Core} {depth : Nat} (h : c.calls.depth ≤ depth) :
    c.calls.frames.toList.take depth = c.calls.frames.toList :=
  List.take_of_length_le (by simpa [CallStack.depth] using h)

theorem open_self (opened : Core) : Open opened opened := by
  refine ⟨take_frames_of_depth_le (Nat.le_refl _), ?_⟩
  rw [pointers_of_depth_le (Nat.le_refl _)]
  rfl

/-- Back at its own depth, an open frame finds what its call had left. -/
theorem Open.eq_of_depth_eq {opened c : Core} (h : Open opened c)
    (hdepth : c.calls.depth = opened.calls.depth) :
    c.calls = opened.calls ∧ c.fp = opened.fp := by
  rcases h with ⟨hsaved, hpointer⟩
  rw [take_frames_of_depth_le (Nat.le_of_eq hdepth)] at hsaved
  rw [pointers_of_depth_le (Nat.le_of_eq hdepth), List.head?_cons, Option.some.injEq] at hpointer
  refine ⟨?_, hpointer⟩
  rcases hc : c.calls with ⟨frames⟩
  rcases ho : opened.calls with ⟨frames'⟩
  rw [hc, ho] at hsaved
  rw [CallStack.mk.injEq]
  exact Array.toList_inj.mp hsaved

/-- What a caller finds when a subroutine has returned a value to it, seen from the core
that was about to make the call. -/
structure Resumed (caller c : Core) (argCount : Nat) (v : Value) : Prop where
  pc : c.pc = caller.pc + 1
  fp : c.fp = caller.fp
  calls : c.calls = caller.calls
  size : c.stack.size + argCount = caller.stack.size + 1
  top : c.stack.top = .ok v

end Core

namespace Machine

section Window

variable {E : Environment α τ} {m : Machine α τ} {k : Nat}

/-- Until the machine is back at the depth of a caller it stays above it: the depth goes
down by one at a time. -/
theorem depth_lt_of_ne {depth : Nat} (hstart : depth < m.core.calls.depth)
    (hopen : ∀ j ≤ k, (m.after E j).core.calls.depth ≠ depth) :
    ∀ j ≤ k, depth < (m.after E j).core.calls.depth := by
  intro j
  induction j with
  | zero =>
      intro _
      exact hstart
  | succ j ih =>
      intro hj
      have habove := ih (Nat.le_of_succ_le hj)
      have hdown := (transition_step E (m.after E j)).moves.depth_le
      have hne := hopen (j + 1) hj
      rw [after_succ] at hne ⊢
      omega

theorem open_after {opened : Core} (hstart : opened.Open m.core)
    (hopen : ∀ j ≤ k, opened.calls.depth ≤ (m.after E j).core.calls.depth) :
    opened.Open (m.after E k).core := by
  induction k with
  | zero => exact hstart
  | succ k ih =>
      have h := ih fun j hj => hopen j (Nat.le_succ_of_le hj)
      have hm := (transition_step E (m.after E k)).moves
      have hbefore := hopen k (Nat.le_succ k)
      have hafter := hopen (k + 1) (Nat.le_refl _)
      refine ⟨?_, ?_⟩
      · rw [after_succ, hm.take_frames hbefore hafter]
        exact h.saved
      · rw [after_succ, hm.head?_pointers hbefore hafter]
        exact h.pointer

/-- Only a return goes to a lower depth, and it goes down by one. -/
theorem Moves.ret_of_depth_lt {c : Core} (hm : m.Moves c)
    (hlt : c.calls.depth < m.core.calls.depth) :
    m.core.calls.depth = c.calls.depth + 1 ∧
      ∃ i v frame, m.Performs i .ret (.update (.ret v frame)) := by
  cases hm with
  | still _ hcalls _ | push _ _ hcalls _ | pop _ _ _ hcalls _ =>
      rw [hcalls] at hlt
      exact absurd hlt (Nat.lt_irrefl _)
  | call _ _ _ hcalls _ _ =>
      rw [hcalls, CallStack.depth_push] at hlt
      omega
  | ret hp hframe _ _ _ hcalls _ _ =>
      rw [hcalls]
      exact ⟨CallStack.depth_of_top hframe, _, _, _, hp⟩

/-- The run from a call on returns to the caller out of the frame that the call had opened,
with the frames and the frame pointer that it had left. -/
theorem exists_ret_of_back (hdepth : ∀ j ≤ k, m.core.calls.depth ≤ (m.after E j).core.calls.depth)
    (hback : (m.after E (k + 1)).core.calls.depth < m.core.calls.depth) :
    (m.after E k).core.calls = m.core.calls ∧ (m.after E k).core.fp = m.core.fp ∧
      ∃ i v frame, (m.after E k).Performs i .ret (.update (.ret v frame)) := by
  have hopen := open_after (Core.open_self m.core) hdepth
  have hlast := hdepth k (Nat.le_refl k)
  have hmoves := (transition_step E (m.after E k)).moves
  rw [after_succ] at hback
  rcases hmoves.ret_of_depth_lt (by omega) with ⟨hone, hret⟩
  have hsame := hopen.eq_of_depth_eq (by omega)
  exact ⟨hsame.1, hsame.2, hret⟩

/-- A return to a caller whose frame is on top resumes it. -/
theorem Performs.resumed {caller opened : Core} {argCount : Nat} {i : Instruction} {v : Value}
    {frame : Frame} (hp : m.Performs i .ret (.update (.ret v frame)))
    (hcall : caller.Opened opened argCount) (hcalls : m.core.calls = opened.calls)
    (hfp : m.core.fp = opened.fp) : caller.Resumed (m.step E).machine.core argCount v := by
  rw [step_of_update hp]
  rw [hcall.calls] at hcalls
  rw [hcall.fp] at hfp
  cases hp.resolves with
  | ret hframe hlt hv =>
      have hframe : m.core.calls.top = .ok frame := hframe
      have hlt : m.core.fp < m.core.stack.size := hlt
      rw [hcalls, CallStack.top_push, Except.ok.injEq] at hframe
      subst hframe
      refine ⟨rfl, rfl, ?_, ?_, DataStack.top_push _ _⟩
      · show m.core.calls.rest = caller.calls
        rw [hcalls, CallStack.rest_push]
      · show ((m.core.stack.bottom m.core.fp).push v).size + argCount = _
        have hargs := hcall.args
        rw [DataStack.size_push, DataStack.size_bottom, Nat.min_eq_left (Nat.le_of_lt hlt)]
        omega

end Window

/-- From a call that succeeds to the first state at the depth of its caller, the machine
has made a bracket: the last step is a return, it resumes the caller behind the call, and
the value that was on top then stands in place of the arguments. If every call in between
takes its arguments out of the frame that makes it, the caller's stack is otherwise what it
was. -/
theorem call_resumes_caller (E : Environment α τ) (m : Machine α τ) (i : Instruction)
    (hcall : m.Completes E i .callFunc) (k : Nat)
    (hopen : ∀ j ≤ k, ((m.after E 1).after E j).core.calls.depth ≠ m.core.calls.depth)
    (hback : ((m.after E 1).after E (k + 1)).core.calls.depth = m.core.calls.depth) :
    ∃ i' v, ((m.after E 1).after E k).Completes E i' .ret ∧
      ((m.after E 1).after E k).core.stack.top = .ok v ∧
      m.core.Resumed ((m.after E 1).after E (k + 1)).core i.argCount.toNat v ∧
      ((∀ j < k, ((m.after E 1).after E j).TakesOwnArguments) →
        ((m.after E 1).after E (k + 1)).core.stack =
          (m.core.stack.bottom (m.core.stack.size - i.argCount.toNat)).push v) := by
  have hopened : m.core.Opened (m.after E 1).core i.argCount.toNat := hcall.opened
  have hdeeper : (m.after E 1).core.calls.depth = m.core.calls.depth + 1 := by
    rw [hopened.calls, CallStack.depth_push]
  have hdepth : ∀ j ≤ k,
      (m.after E 1).core.calls.depth ≤ ((m.after E 1).after E j).core.calls.depth := by
    rw [hdeeper]
    exact depth_lt_of_ne (by omega) hopen
  rcases exists_ret_of_back hdepth (by omega) with ⟨hcalls, hfp, i', v, frame, hret⟩
  have htop : ((m.after E 1).after E k).core.stack.top = .ok v := by
    cases hret.resolves with
    | ret _ _ hv => exact hv
  refine ⟨i', v, hret.completes, htop, hret.resumed hopened hcalls hfp, ?_⟩
  intro hown
  have hle : (m.after E 1).core.fp ≤ (m.after E 1).core.stack.size := by
    rw [hopened.fp, hopened.stack]
    exact Nat.sub_le _ _
  have hbottom := ((isolated_after_iff hle (Core.isolated_of_le hle) k hdepth).mp hown k
    (Nat.le_refl k)).bottom
  rw [after_succ, step_of_update hret]
  show (((m.after E 1).after E k).core.stack.bottom ((m.after E 1).after E k).core.fp).push v = _
  rw [hfp, hbottom, hopened.fp, hopened.stack]

open Instruction in
/-- A subroutine with one argument that calls another one, and returns with its argument and
a value of its own left in its frame. -/
def leftovers : Program := .ofList [
  store (.int 7) 0,
  push 0,
  push 0,
  store (.address 6) 1,
  callFunc 1 1,
  exit,
  store (.address 10) 2,
  push 0,
  callFunc 2 1,
  ret,
  store (.bool true) 3,
  push 3,
  ret]

def leftoversCaller : Machine (Standard Script) Transcript :=
  (boot {} leftovers ⟨Standard.table {}, {}⟩).after Standard.scripted 4

/-- What is left over does not show: of the two values on the caller's stack, the returned
one replaces the argument. -/
theorem call_resumes_caller_leftovers :
    leftoversCaller.Completes Standard.scripted (.callFunc 1 1) .callFunc ∧
    leftoversCaller.core.stack = ⟨#[.number 7, .number 7]⟩ ∧
    (∀ j ≤ 6, ((leftoversCaller.after Standard.scripted 1).after
      Standard.scripted j).core.calls.depth ≠ leftoversCaller.core.calls.depth) ∧
    ∃ v, leftoversCaller.core.Resumed ((leftoversCaller.after Standard.scripted 1).after
        Standard.scripted 7).core 1 v ∧
      ((leftoversCaller.after Standard.scripted 1).after Standard.scripted 7).core.stack =
        (leftoversCaller.core.stack.bottom 1).push v := by
  have hcall : leftoversCaller.Completes Standard.scripted (.callFunc 1 1) .callFunc :=
    ⟨⟨by decide, by decide, by decide, by decide⟩, by decide⟩
  have hopen : ∀ j ≤ 6, ((leftoversCaller.after Standard.scripted 1).after
      Standard.scripted j).core.calls.depth ≠ leftoversCaller.core.calls.depth := by decide
  have hown : ∀ j < 6, ((leftoversCaller.after Standard.scripted 1).after
      Standard.scripted j).TakesOwnArguments :=
    (isolated_after_iff (by decide) (Core.isolated_of_le (by decide)) 6 (by decide)).mpr
      (by decide)
  rcases call_resumes_caller Standard.scripted leftoversCaller _ hcall 6 hopen (by decide) with
    ⟨i, v, -, -, hresumed, hstack⟩
  exact ⟨hcall, by decide, hopen, v, hresumed, hstack hown⟩

end Machine

end RegisterMachine
