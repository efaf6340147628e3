import Mathlib.Data.List.Basic
import RegisterMachine.Proofs.FrameIsolation

/-!
# The call stack along a run

Only calls and returns touch the saved frames. `Machine.Completes.call` and
`Machine.Completes.ret` read a call and a return that have succeeded back as changes of
the core, and the depth of the call stack tells which of the two a step has been.

A frame that stays open keeps its place: the frames saved below it are not touched
(`Machine.Moves.take_frames`), and whatever calls it makes, its frame pointer is the
first of those from its depth on (`Machine.Moves.head?_pointers`).
-/

namespace RegisterMachine

variable {α τ : Type}

/-- From the current depth on there is the current frame only. -/
theorem Core.pointers_of_depth_le {c : Core} {depth : Nat} (h : c.calls.depth ≤ depth) :
    c.pointers depth = [c.fp] := by
  have hdrop : c.calls.frames.toList.drop depth = [] :=
    List.drop_of_length_le (by simpa [CallStack.depth] using h)
  rw [pointers, hdrop]
  rfl

theorem Core.head?_pointers_append (c : Core) (depth : Nat) (l : List Nat) :
    (c.pointers depth ++ l).head? = (c.pointers depth).head? :=
  List.head?_append_of_ne_nil _ (List.ne_nil_of_mem (c.mem_pointers depth))

/-- What a call leaves behind, seen from the core that was about to make it: a saved frame
that leads back behind the call, and a frame over the arguments. -/
structure Core.Opened (caller c : Core) (argCount : Nat) : Prop where
  args : argCount ≤ caller.stack.size
  calls : c.calls = caller.calls.push ⟨caller.pc + 1, caller.fp⟩
  fp : c.fp = caller.stack.size - argCount
  stack : c.stack = caller.stack

theorem CallStack.take_push {c : CallStack} {depth : Nat} (h : depth ≤ c.depth) (f : Frame) :
    (c.push f).frames.toList.take depth = c.frames.toList.take depth := by
  have hlength : depth ≤ c.frames.toList.length := by simpa [CallStack.depth] using h
  rw [push, Array.toList_push, List.take_append_of_le_length hlength]

theorem CallStack.depth_of_top {c : CallStack} {f : Frame} (h : c.top = .ok f) :
    c.depth = c.rest.depth + 1 := by
  have hpush := congrArg CallStack.depth (CallStack.eq_push_of_top h)
  rw [CallStack.depth_push] at hpush
  exact hpush

namespace Machine

section Step

variable {E : Environment α τ} {m : Machine α τ} {i : Instruction} {c : Core}

/-- A call that succeeds found an address, the arguments that its instruction names, and
room for one more frame. -/
theorem Completes.call (h : m.Completes E i .callFunc) :
    ∃ address, m.core.Reads i.arg1 (.address address) ∧
      i.argCount.toNat ≤ m.core.stack.size ∧
      (∀ limit ∈ m.config.maxCallDepth, m.core.calls.depth < limit) ∧
      m.Performs i .callFunc (.update (.call address.toNat i.argCount.toNat)) := by
  rcases h.performs with ⟨e, hp⟩
  have hresolves := hp.resolves
  cases hresolves with
  | callFunc ha hargs hdepth => exact ⟨_, ha, hargs, hdepth, hp⟩

/-- A return that succeeds found a saved frame, and a value above the frame pointer. -/
theorem Completes.ret (h : m.Completes E i .ret) :
    ∃ v frame, m.core.calls.top = .ok frame ∧ m.core.fp < m.core.stack.size ∧
      m.core.stack.top = .ok v ∧ m.Performs i .ret (.update (.ret v frame)) := by
  rcases h.performs with ⟨e, hp⟩
  have hresolves := hp.resolves
  cases hresolves with
  | ret hframe hlt hv => exact ⟨_, _, hframe, hlt, hv, hp⟩

theorem Completes.opened (h : m.Completes E i .callFunc) :
    m.core.Opened (m.step E).machine.core i.argCount.toNat := by
  rcases h.call with ⟨address, -, hargs, -, hp⟩
  rw [step_of_update hp]
  exact ⟨hargs, rfl, rfl, rfl⟩

theorem Moves.depth_le (hm : m.Moves c) : m.core.calls.depth ≤ c.calls.depth + 1 := by
  cases hm with
  | still _ hcalls _ | push _ _ hcalls _ | pop _ _ _ hcalls _ =>
      rw [hcalls]
      exact Nat.le_succ _
  | call _ _ _ hcalls _ _ =>
      rw [hcalls, CallStack.depth_push]
      omega
  | ret _ hframe _ _ _ hcalls _ _ =>
      rw [hcalls]
      exact Nat.le_of_eq (CallStack.depth_of_top hframe)

theorem Moves.take_frames (hm : m.Moves c) {depth : Nat} (hdepth : depth ≤ m.core.calls.depth)
    (hopen : depth ≤ c.calls.depth) :
    c.calls.frames.toList.take depth = m.core.calls.frames.toList.take depth := by
  cases hm with
  | still _ hcalls _ | push _ _ hcalls _ | pop _ _ _ hcalls _ => rw [hcalls]
  | call _ _ _ hcalls _ _ => rw [hcalls, CallStack.take_push hdepth]
  | ret _ hframe _ _ _ hcalls _ _ =>
      rw [CallStack.eq_push_of_top hframe, ← hcalls, CallStack.take_push hopen]

theorem Moves.head?_pointers (hm : m.Moves c) {depth : Nat} (hdepth : depth ≤ m.core.calls.depth)
    (hopen : depth ≤ c.calls.depth) :
    (c.pointers depth).head? = (m.core.pointers depth).head? := by
  cases hm with
  | still _ hcalls hfp | push _ _ hcalls hfp | pop _ _ _ hcalls hfp =>
      rw [Core.pointers_congr hcalls hfp]
  | call _ _ _ hcalls _ _ =>
      rw [Core.pointers_of_push hcalls hdepth, Core.head?_pointers_append]
  | ret _ hframe _ _ _ hcalls hfp _ =>
      rw [Core.pointers_of_rest hframe hcalls hfp hopen, Core.head?_pointers_append]

end Step

end Machine

end RegisterMachine
