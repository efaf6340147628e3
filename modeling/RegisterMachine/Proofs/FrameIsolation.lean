import Mathlib.Control.Monad.Basic
import RegisterMachine.Host.Standard
import RegisterMachine.Proofs.Stacks
import RegisterMachine.Proofs.Step

/-!
# Frame isolation

A call opens a frame on the data stack, and what lies below belongs to the caller.
`Machine.Moves` says what a step can do to the two stacks and to the frame pointer.
From it follows when the frame protocol protects the caller: as long as every call
takes its arguments out of the frame that makes it (`Machine.TakesOwnArguments`),
the slots below an open frame stay as they are, and the stack reaches up to the
frame pointer.

The machine checks the arguments of a call against the whole stack and not against
the frame, so a call can open a frame that reaches below the one that makes it, and
then a subroutine can take values of its caller off the stack. The main theorem says
exactly when the caller's slots are kept, and that the condition on calls is exact for
frames that are nested; a run with an overlapping call ends the module.
-/

namespace RegisterMachine

variable {α τ : Type}

namespace Machine

/-! ## What a step does to the stacks -/

/-- The ways in which a step moves the stacks and the frame pointer of a machine. -/
inductive Moves (m : Machine α τ) (c : Core) : Prop
  | still (hstack : c.stack = m.core.stack) (hcalls : c.calls = m.core.calls)
      (hfp : c.fp = m.core.fp)
  | push {i : Instruction} {v : Value} (hp : m.Performs i .push (.update (.push v)))
      (hstack : c.stack = m.core.stack.push v) (hcalls : c.calls = m.core.calls)
      (hfp : c.fp = m.core.fp)
  | pop {i : Instruction} {t : Nat} {v : Value} (hp : m.Performs i .pop (.update (.pop t v)))
      (hlt : m.core.fp < m.core.stack.size) (hstack : c.stack = m.core.stack.rest)
      (hcalls : c.calls = m.core.calls) (hfp : c.fp = m.core.fp)
  | call {i : Instruction} {address argCount : Nat}
      (hp : m.Performs i .callFunc (.update (.call address argCount)))
      (hargs : argCount ≤ m.core.stack.size) (hstack : c.stack = m.core.stack)
      (hcalls : c.calls = m.core.calls.push ⟨m.core.pc + 1, m.core.fp⟩)
      (hfp : c.fp = m.core.stack.size - argCount) (hpc : c.pc = address)
  | ret {i : Instruction} {v : Value} {frame : Frame}
      (hp : m.Performs i .ret (.update (.ret v frame)))
      (hframe : m.core.calls.top = .ok frame) (hlt : m.core.fp < m.core.stack.size)
      (hv : m.core.stack.top = .ok v)
      (hstack : c.stack = (m.core.stack.bottom m.core.fp).push v)
      (hcalls : c.calls = m.core.calls.rest) (hfp : c.fp = frame.savedFp)
      (hpc : c.pc = frame.returnPc)

/-- The change that an instruction resolves to moves the stacks in one of the ways. -/
theorem Performs.moves {m : Machine α τ} {i : Instruction} {op : Opcode} {u : Update}
    (hp : m.Performs i op (.update u)) : m.Moves (m.advance.core.apply u) := by
  have hsame := hp
  cases hp.resolves with
  | store | set | add | equals | lessThan | lessThanEquals | loadGlobal | jump =>
      exact .still rfl rfl rfl
  | jumpIfTrue | jumpIfFalse =>
      split
      · exact .still rfl rfl rfl
      · exact .still rfl rfl rfl
  | push => exact .push hsame rfl rfl rfl
  | pop _ hlt _ => exact .pop hsame hlt rfl rfl rfl
  | callFunc _ hargs _ => exact .call hsame hargs rfl rfl rfl rfl
  | ret hframe hlt hv => exact .ret hsame hframe hlt hv rfl rfl rfl rfl

theorem moves_receive (m : Machine α τ) (target : Option Nat) (reply : Option Value) :
    m.Moves (receive m.advance.core target reply) := by
  unfold receive
  split
  · exact .still rfl rfl rfl
  · exact .still rfl rfl rfl

theorem Transition.moves {E : Environment α τ} {m : Machine α τ} {o : Outcome α τ}
    (ht : Transition E m o) : m.Moves o.machine.core := by
  cases ht with
  | updated hp => exact hp.moves
  | invoked hp hw => exact moves_receive m _ _
  | _ => exact .still rfl rfl rfl

end Machine

/-! ## Open frames -/

namespace Core

/-- The frame pointers of the open frames from a depth on, the current one last. -/
def pointers (c : Core) (depth : Nat) : List Nat :=
  (c.calls.frames.toList.drop depth).map Frame.savedFp ++ [c.fp]

theorem mem_pointers (c : Core) (depth : Nat) : c.fp ∈ c.pointers depth := by
  simp [pointers]

theorem pointers_congr {c c' : Core} (hcalls : c'.calls = c.calls) (hfp : c'.fp = c.fp)
    (depth : Nat) : c'.pointers depth = c.pointers depth := by
  rw [pointers, pointers, hcalls, hfp]

/-- A call adds its frame pointer to those of the open frames. -/
theorem pointers_of_push {c c' : Core} {pc depth : Nat}
    (hcalls : c'.calls = c.calls.push ⟨pc, c.fp⟩) (hdepth : depth ≤ c.calls.depth) :
    c'.pointers depth = c.pointers depth ++ [c'.fp] := by
  have hlength : depth ≤ c.calls.frames.toList.length := by
    simpa [CallStack.depth] using hdepth
  rw [pointers, pointers, hcalls, CallStack.push, Array.toList_push,
    List.drop_append_of_le_length hlength, List.map_append]
  rfl

theorem pointers_of_rest {c c' : Core} {frame : Frame} {depth : Nat}
    (hframe : c.calls.top = .ok frame) (hcalls : c'.calls = c.calls.rest)
    (hfp : c'.fp = frame.savedFp) (hdepth : depth ≤ c'.calls.depth) :
    c.pointers depth = c'.pointers depth ++ [c.fp] := by
  obtain ⟨pc, savedFp⟩ := frame
  have hpush : c.calls = c'.calls.push ⟨pc, c'.fp⟩ := by
    rw [hcalls, hfp]
    exact CallStack.eq_push_of_top hframe
  exact pointers_of_push hpush hdepth

theorem le_fp_of_mem {c : Core} {f depth a : Nat}
    (h : (f :: c.pointers depth).Pairwise (· ≤ ·)) (ha : a ∈ f :: c.pointers depth) :
    a ≤ c.fp := by
  rw [pointers, ← List.cons_append, List.pairwise_append] at h
  rw [pointers, ← List.cons_append, List.mem_append] at ha
  rcases ha with ha | ha
  · exact h.2.2 a ha c.fp (by simp)
  · have ha : a = c.fp := by simpa using ha
    exact Nat.le_of_eq ha

/-- What a caller is promised, seen from the core in which its call had just opened a
frame: the slots below that frame are what they were, and the stack reaches up to the
frame pointer. -/
structure Preserved (opened c : Core) : Prop where
  bottom : c.stack.bottom opened.fp = opened.stack.bottom opened.fp
  length : c.fp ≤ c.stack.size

/-- The promise is kept, and no frame opened since reaches below the one before. -/
structure Isolated (opened c : Core) : Prop extends Preserved opened c where
  nested : (opened.fp :: c.pointers opened.calls.depth).Pairwise (· ≤ ·)

instance (opened c : Core) : Decidable (opened.Preserved c) :=
  decidable_of_iff (c.stack.bottom opened.fp = opened.stack.bottom opened.fp ∧
    c.fp ≤ c.stack.size) ⟨fun h => ⟨h.1, h.2⟩, fun h => ⟨h.bottom, h.length⟩⟩

instance (opened c : Core) : Decidable (opened.Isolated c) :=
  decidable_of_iff (opened.Preserved c ∧
    (opened.fp :: c.pointers opened.calls.depth).Pairwise (· ≤ ·))
    ⟨fun h => ⟨h.1, h.2⟩, fun h => ⟨h.toPreserved, h.nested⟩⟩

theorem Preserved.fp_le_size {opened c : Core} (h : Preserved opened c)
    (hopened : opened.fp ≤ opened.stack.size) : opened.fp ≤ c.stack.size := by
  have hsize := congrArg DataStack.size h.bottom
  rw [DataStack.size_bottom, DataStack.size_bottom] at hsize
  omega

theorem Isolated.fp_le {opened c : Core} (h : Isolated opened c) : opened.fp ≤ c.fp :=
  List.rel_of_pairwise_cons h.nested (mem_pointers _ _)

/-- The frame that a call has just opened is isolated. -/
theorem isolated_of_le {opened : Core} (h : opened.fp ≤ opened.stack.size) :
    Isolated opened opened := by
  refine ⟨⟨rfl, h⟩, ?_⟩
  have hdrop : opened.calls.frames.toList.drop opened.calls.depth = [] :=
    List.drop_of_length_le (by simp [CallStack.depth])
  simp [pointers, hdrop]

end Core

namespace Machine

/-! ## What keeps a frame isolated -/

/-- The next step breaks no promise to the caller of a frame: a pop takes a value from
above the caller's slots, and a return leaves its value above them, or replaces the
last of them by the same value, and goes back to a frame that the stack reaches. -/
structure Preserves (m : Machine α τ) (opened : Core) : Prop where
  pop : ∀ i t v, m.Performs i .pop (.update (.pop t v)) → opened.fp < m.core.stack.size
  ret : ∀ i v frame, m.Performs i .ret (.update (.ret v frame)) →
    frame.savedFp ≤ m.core.fp + 1 ∧
    (opened.fp ≤ m.core.fp ∨
      opened.fp = m.core.fp + 1 ∧ opened.stack.values[m.core.fp]? = some v)

/-- A call that comes next takes its arguments out of the current frame. -/
def TakesOwnArguments (m : Machine α τ) : Prop :=
  ∀ i address argCount, m.Performs i .callFunc (.update (.call address argCount)) →
    m.core.fp + argCount ≤ m.core.stack.size

section Step

variable {E : Environment α τ} {m : Machine α τ} {opened : Core}

theorem Moves.preserved {c : Core} (hm : m.Moves c) (hp : opened.Preserved m.core)
    (hopened : opened.fp ≤ opened.stack.size) (hs : m.Preserves opened) :
    opened.Preserved c := by
  have hlength := hp.length
  cases hm with
  | still hstack hcalls hfp =>
      refine ⟨by rw [hstack, hp.bottom], ?_⟩
      rw [hstack, hfp]
      exact hlength
  | push hpush hstack hcalls hfp =>
      refine ⟨?_, ?_⟩
      · rw [hstack, DataStack.bottom_push (hp.fp_le_size hopened), hp.bottom]
      · rw [hstack, hfp, DataStack.size_push]
        omega
  | pop hpop hlt hstack hcalls hfp =>
      have habove := hs.pop _ _ _ hpop
      refine ⟨?_, ?_⟩
      · rw [hstack, DataStack.bottom_rest habove, hp.bottom]
      · rw [hstack, hfp, DataStack.size_rest]
        omega
  | call hcall hargs hstack hcalls hfp hpc =>
      refine ⟨by rw [hstack, hp.bottom], ?_⟩
      rw [hstack, hfp]
      exact Nat.sub_le _ _
  | ret hret hframe hlt hv hstack hcalls hfp hpc =>
      obtain ⟨hsaved, hslots⟩ := hs.ret _ _ _ hret
      have hsize : (m.core.stack.bottom m.core.fp).size = m.core.fp := by
        rw [DataStack.size_bottom]
        omega
      refine ⟨?_, ?_⟩
      · rcases hslots with hle | ⟨hnext, hsame⟩
        · rw [hstack, DataStack.bottom_push (by omega), DataStack.bottom_bottom hle, hp.bottom]
        · -- The value returned lands in the caller's last slot, where it was before.
          have hbelow : m.core.stack.bottom m.core.fp = opened.stack.bottom m.core.fp := by
            have hle : m.core.fp ≤ opened.fp := by omega
            rw [← DataStack.bottom_bottom hle, hp.bottom, DataStack.bottom_bottom hle]
          rw [hstack, hnext, DataStack.bottom_of_size_le (by rw [DataStack.size_push]; omega),
            hbelow, DataStack.bottom_succ hsame]
      · rw [hstack, hfp, DataStack.size_push]
        omega

/-- If the caller has what it was promised after a step, the step broke no promise. -/
theorem preserves_of_preserved (hp : opened.Preserved (m.step E).machine.core)
    (hopened : opened.fp ≤ opened.stack.size) : m.Preserves opened := by
  have hle := hp.fp_le_size hopened
  constructor
  · intro i t v hpop
    rw [step_of_update hpop] at hle
    cases hpop.resolves with
    | pop _ hlt _ =>
        have hlt : m.core.fp < m.core.stack.size := hlt
        have hle : opened.fp ≤ m.core.stack.rest.size := hle
        rw [DataStack.size_rest] at hle
        omega
  · intro i v frame hret
    rw [step_of_update hret] at hp hle
    cases hret.resolves with
    | ret hframe hlt hv =>
        have hlt : m.core.fp < m.core.stack.size := hlt
        have hle : opened.fp ≤ ((m.core.stack.bottom m.core.fp).push v).size := hle
        have hlength : frame.savedFp ≤ ((m.core.stack.bottom m.core.fp).push v).size := hp.length
        have hbottom : ((m.core.stack.bottom m.core.fp).push v).bottom opened.fp =
          opened.stack.bottom opened.fp := hp.bottom
        have hsize : (m.core.stack.bottom m.core.fp).size = m.core.fp := by
          rw [DataStack.size_bottom]
          omega
        rw [DataStack.size_push, hsize] at hle hlength
        refine ⟨hlength, ?_⟩
        by_cases hbelow : opened.fp ≤ m.core.fp
        · exact .inl hbelow
        · have hnext : opened.fp = m.core.fp + 1 := by omega
          rw [hnext, DataStack.bottom_of_size_le (by rw [DataStack.size_push]; omega)] at hbottom
          exact .inr ⟨hnext, DataStack.getElem?_of_bottom_eq_push hbottom.symm hsize⟩

/-- Where frames are nested, a step that leaves the frame open breaks no promise. -/
theorem preserves_of_isolated (hi : opened.Isolated m.core)
    (hopen : opened.calls.depth ≤ (m.step E).machine.core.calls.depth) :
    m.Preserves opened := by
  have hfp := hi.fp_le
  constructor
  · intro i t v hpop
    cases hpop.resolves with
    | pop _ hlt _ =>
        have hlt : m.core.fp < m.core.stack.size := hlt
        omega
  · intro i v frame hret
    rw [step_of_update hret] at hopen
    cases hret.resolves with
    | ret hframe hlt hv =>
        -- The frame that it goes back to is the one before the current one.
        have hpointers : m.core.pointers opened.calls.depth =
            (m.advance.core.apply (.ret v frame)).pointers opened.calls.depth ++ [m.core.fp] :=
          Core.pointers_of_rest hframe rfl rfl hopen
        have hnested := hi.nested
        rw [hpointers, ← List.cons_append, List.pairwise_append] at hnested
        have hsaved : frame.savedFp ≤ m.core.fp :=
          hnested.2.2 _ (List.mem_cons_of_mem _ (Core.mem_pointers _ _)) _ (by simp)
        exact ⟨by omega, .inl hfp⟩

/-- A step that is no call with arguments of another frame keeps the frames nested. -/
theorem Moves.nested {c : Core} (hm : m.Moves c)
    (hn : (opened.fp :: m.core.pointers opened.calls.depth).Pairwise (· ≤ ·))
    (hown : m.TakesOwnArguments) (hdepth : opened.calls.depth ≤ m.core.calls.depth)
    (hopen : opened.calls.depth ≤ c.calls.depth) :
    (opened.fp :: c.pointers opened.calls.depth).Pairwise (· ≤ ·) := by
  cases hm with
  | still _ hcalls hfp | push _ _ hcalls hfp | pop _ _ _ hcalls hfp =>
      rw [Core.pointers_congr hcalls hfp]
      exact hn
  | call hcall hargs hstack hcalls hfp hpc =>
      -- The new frame starts at or above the current one, hence above all of them.
      have hown := hown _ _ _ hcall
      rw [Core.pointers_of_push hcalls hdepth, ← List.cons_append, List.pairwise_append]
      refine ⟨hn, by simp, ?_⟩
      intro a ha b hb
      have hb : b = c.fp := by simpa using hb
      have ha : a ≤ m.core.fp := Core.le_fp_of_mem hn ha
      omega
  | ret hret hframe hlt hv hstack hcalls hfp hpc =>
      rw [Core.pointers_of_rest hframe hcalls hfp hopen, ← List.cons_append,
        List.pairwise_append] at hn
      exact hn.1

/-- If the frames are nested after a call, the call has taken its arguments out of the
frame that made it. -/
theorem takesOwnArguments_of_isolated (hdepth : opened.calls.depth ≤ m.core.calls.depth)
    (hi : opened.Isolated (m.step E).machine.core) : m.TakesOwnArguments := by
  intro i address argCount hp
  rw [step_of_update hp] at hi
  have hargs : argCount ≤ m.core.stack.size := by
    cases hp.resolves with
    | callFunc _ hargs _ => exact hargs
  have hpointers : (m.advance.core.apply (.call address argCount)).pointers
      opened.calls.depth = m.core.pointers opened.calls.depth ++
        [m.core.stack.size - argCount] :=
    Core.pointers_of_push rfl hdepth
  have hnested := hi.nested
  rw [hpointers, ← List.cons_append, List.pairwise_append] at hnested
  have hle : m.core.fp ≤ m.core.stack.size - argCount :=
    hnested.2.2 _ (List.mem_cons_of_mem _ (Core.mem_pointers _ _)) _ (by simp)
  omega

end Step

section Window

variable {E : Environment α τ} {m : Machine α τ} {opened : Core}

/-- The caller has what it was promised all along exactly if no step breaks a promise. -/
theorem preserved_after_iff (hopened : opened.fp ≤ opened.stack.size)
    (hstart : opened.Preserved m.core) (k : Nat) :
    (∀ j < k, (m.after E j).Preserves opened) ↔
      ∀ j ≤ k, opened.Preserved (m.after E j).core := by
  constructor
  · intro hs j
    induction j with
    | zero =>
        intro _
        exact hstart
    | succ j ih =>
        intro hj
        have hp := ih (Nat.le_of_succ_le hj)
        exact (transition_step E _).moves.preserved hp hopened (hs j hj)
  · intro hp j hj
    exact preserves_of_preserved (hp (j + 1) hj) hopened

/-- As long as the frame stays open, it is isolated exactly if every call takes its
arguments out of the frame that makes it. -/
theorem isolated_after_iff (hopened : opened.fp ≤ opened.stack.size)
    (hstart : opened.Isolated m.core) (k : Nat)
    (hopen : ∀ j ≤ k, opened.calls.depth ≤ (m.after E j).core.calls.depth) :
    (∀ j < k, (m.after E j).TakesOwnArguments) ↔
      ∀ j ≤ k, opened.Isolated (m.after E j).core := by
  constructor
  · intro hown j
    induction j with
    | zero =>
        intro _
        exact hstart
    | succ j ih =>
        intro hj
        have hi := ih (Nat.le_of_succ_le hj)
        have hm := (transition_step E (m.after E j)).moves
        have hs := preserves_of_isolated hi (hopen (j + 1) hj)
        exact ⟨hm.preserved hi.toPreserved hopened hs,
          hm.nested hi.nested (hown j hj) (hopen j (Nat.le_of_succ_le hj)) (hopen (j + 1) hj)⟩
  · intro hi j hj
    exact takesOwnArguments_of_isolated (hopen j (Nat.le_of_lt hj)) (hi (j + 1) hj)

end Window

/-- After a call, as long as the frame that it opened stays open, the caller's slots are
kept and the stack reaches up to the frame pointer in every state exactly if no pop and
no return on the way goes below the frame. It is enough that every call on the way takes
its arguments out of the frame that makes it, which is exactly what keeps the frames
nested too. -/
theorem isolated_iff (E : Environment α τ) (m : Machine α τ) (i : Instruction)
    (address argCount : Nat) (hcall : m.Performs i .callFunc (.update (.call address argCount)))
    (k : Nat)
    (hopen : ∀ j ≤ k,
      (m.after E 1).core.calls.depth ≤ ((m.after E 1).after E j).core.calls.depth) :
    ((∀ j < k, ((m.after E 1).after E j).Preserves (m.after E 1).core) ↔
      ∀ j ≤ k, (m.after E 1).core.Preserved ((m.after E 1).after E j).core) ∧
    ((∀ j < k, ((m.after E 1).after E j).TakesOwnArguments) ↔
      ∀ j ≤ k, (m.after E 1).core.Isolated ((m.after E 1).after E j).core) := by
  have hopened : (m.after E 1).core.fp ≤ (m.after E 1).core.stack.size := by
    rw [after_succ, after_zero, step_of_update hcall]
    exact Nat.sub_le _ _
  have hstart := Core.isolated_of_le hopened
  exact ⟨preserved_after_iff hopened hstart.toPreserved k,
    isolated_after_iff hopened hstart k hopen⟩

open Instruction in
/-- A call within a call: the outer one opens a frame above two values, and the inner
one, which has put nothing on the stack, takes so many arguments. -/
def nestedCall (argCount : UInt64) : Program := .ofList [
  store (.int 1) 0,
  push 0,
  push 0,
  store (.address 6) 1,
  callFunc 1 0,
  exit,
  store (.address 9) 2,
  callFunc 2 argCount,
  exit,
  pop 3,
  ret]

def nestedCaller (argCount : UInt64) : Machine (Standard Script) Transcript :=
  (boot { registerCount := 4 } (nestedCall argCount) ⟨Standard.table {}, {}⟩).after
    Standard.scripted 4

def nestedCallee (argCount : UInt64) : Machine (Standard Script) Transcript :=
  (nestedCaller argCount).after Standard.scripted 1

theorem nestedCaller_performs :
    ∀ argCount ∈ [0, 2], (nestedCaller argCount).Performs (.callFunc 1 0) .callFunc
      (.update (.call 6 0)) := by
  intro argCount h
  have hcases : argCount = 0 ∨ argCount = 2 := by simpa using h
  rcases hcases with rfl | rfl
  · exact ⟨⟨by decide, by decide, by decide, by decide⟩, .of_resolve (by decide)⟩
  · exact ⟨⟨by decide, by decide, by decide, by decide⟩, .of_resolve (by decide)⟩

/-- An inner call without arguments keeps the frame isolated, to the pop that fails. -/
theorem isolated_iff_nestedCall :
    (∀ j ≤ 4, (nestedCallee 0).core.calls.depth ≤
      ((nestedCallee 0).after Standard.scripted j).core.calls.depth) ∧
    (∀ j ≤ 4, (nestedCallee 0).core.Isolated
      ((nestedCallee 0).after Standard.scripted j).core) ∧
    ∀ j < 4, ((nestedCallee 0).after Standard.scripted j).TakesOwnArguments := by
  have hopen : ∀ j ≤ 4, (nestedCallee 0).core.calls.depth ≤
      ((nestedCallee 0).after Standard.scripted j).core.calls.depth := by decide
  have hisolated : ∀ j ≤ 4, (nestedCallee 0).core.Isolated
      ((nestedCallee 0).after Standard.scripted j).core := by decide
  have hiff := isolated_iff Standard.scripted (nestedCaller 0) _ 6 0
    (nestedCaller_performs 0 (by simp)) 4 hopen
  exact ⟨hopen, hisolated, hiff.2.mpr hisolated⟩

/-- An inner call that takes two arguments finds them below the frame that makes it. Its
pop takes a value of the outer caller, and its return leaves the stack shorter than the
frame pointer, with the frame of the outer call still open. -/
theorem overlapping_call_breaks_isolation :
    (nestedCaller 2).Performs (.callFunc 1 0) .callFunc (.update (.call 6 0)) ∧
    (∀ j ≤ 4, (nestedCallee 2).core.calls.depth ≤
      ((nestedCallee 2).after Standard.scripted j).core.calls.depth) ∧
    ((nestedCallee 2).after Standard.scripted 3).core.stack.bottom (nestedCallee 2).core.fp ≠
      (nestedCallee 2).core.stack.bottom (nestedCallee 2).core.fp ∧
    ((nestedCallee 2).after Standard.scripted 4).core.stack.size <
      ((nestedCallee 2).after Standard.scripted 4).core.fp := by
  refine ⟨nestedCaller_performs 2 (by simp), ?_, ?_, ?_⟩
  · decide
  · decide
  · decide

end Machine

end RegisterMachine
