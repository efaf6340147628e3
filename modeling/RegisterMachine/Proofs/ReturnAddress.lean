import RegisterMachine.Proofs.CallStack

/-!
# Return addresses

The call stack is an account of the run: its depth is the number of calls that have
succeeded less the number of returns, and every frame on it was saved by a call of the
program. So a return leads behind a call, whatever the program jumps to and whatever it
does to its data stack.

`Machine.history` lists the operations that a run has carried out, so that the account can
be stated. `Machine.Rooted` is what a step keeps, along with `Machine.depth_step`.
-/

namespace RegisterMachine

variable {α τ : Type}

def Program.FollowsCall (p : Program) (pc : Nat) : Prop :=
  ∃ k i, k < p.length ∧ p.fetch? k = some i ∧ i.decode = .ok .callFunc ∧ pc = k + 1

theorem Program.FollowsCall.le_length {p : Program} {pc : Nat} (h : p.FollowsCall pc) :
    pc ≤ p.length := by
  rcases h with ⟨k, i, hk, -, -, rfl⟩
  exact hk

theorem CallStack.mem_of_top {c : CallStack} {f : Frame} (h : c.top = .ok f) :
    f ∈ c.frames := by
  rw [eq_push_of_top h]
  exact Array.mem_push_self

theorem CallStack.mem_of_mem_rest {c : CallStack} {f g : Frame} (h : c.top = .ok f)
    (hg : g ∈ c.rest.frames) : g ∈ c.frames := by
  rw [eq_push_of_top h]
  exact Array.mem_push_of_mem _ hg

namespace Machine

/-! ## The account of a run -/

def completed? (E : Environment α τ) (m : Machine α τ) : Option Opcode :=
  if m.status = .running ∧ m.spentBudget? = none ∧ (m.step E).result = .ok () then
    m.current?.bind fun i => i.decode.toOption
  else none

def history (E : Environment α τ) (m : Machine α τ) : Nat → List Opcode
  | 0 => []
  | n + 1 => m.history E n ++ ((m.after E n).completed? E).toList

theorem history_succ (E : Environment α τ) (m : Machine α τ) (n : Nat) :
    m.history E (n + 1) = m.history E n ++ ((m.after E n).completed? E).toList := rfl

theorem completed?_eq_some_iff (E : Environment α τ) (m : Machine α τ) (op : Opcode) :
    m.completed? E = some op ↔ ∃ i, m.Completes E i op := by
  unfold completed?
  constructor
  · intro h
    split at h
    · next hguard =>
        rcases hguard with ⟨hs, hb, hok⟩
        rcases Option.bind_eq_some_iff.mp h with ⟨i, hc, hd⟩
        cases hdecode : i.decode with
        | error e =>
            rw [hdecode] at hd
            cases hd
        | ok op' =>
            rw [hdecode] at hd
            cases hd
            exact ⟨i, ⟨hs, hc, hb, hdecode⟩, hok⟩
    · cases h
  · rintro ⟨i, h⟩
    rw [if_pos ⟨h.running, h.budget, h.succeeds⟩, h.current, Option.bind_some, h.decoded]
    rfl

section Step

variable {E : Environment α τ} {m : Machine α τ} {o : Outcome α τ}

theorem depth_of_call (h : m.completed? E = some .callFunc) :
    (m.step E).machine.core.calls.depth = m.core.calls.depth + 1 := by
  rcases (completed?_eq_some_iff E m _).mp h with ⟨i, hi⟩
  rw [hi.opened.calls, CallStack.depth_push]

theorem depth_of_ret (h : m.completed? E = some .ret) :
    m.core.calls.depth = (m.step E).machine.core.calls.depth + 1 := by
  rcases (completed?_eq_some_iff E m _).mp h with ⟨i, hi⟩
  rcases hi.ret with ⟨v, frame, hframe, -, -, hp⟩
  rw [step_of_update hp]
  exact CallStack.depth_of_top hframe

theorem calls_of_other (hcall : m.completed? E ≠ some .callFunc)
    (hret : m.completed? E ≠ some .ret) :
    (m.step E).machine.core.calls = m.core.calls := by
  have hm := (transition_step E m).moves
  cases hm with
  | still _ hcalls _ | push _ _ hcalls _ | pop _ _ _ hcalls _ => exact hcalls
  | call hp _ _ _ _ _ =>
      exact absurd ((completed?_eq_some_iff E m _).mpr ⟨_, hp.completes⟩) hcall
  | ret hp _ _ _ _ _ _ _ =>
      exact absurd ((completed?_eq_some_iff E m _).mpr ⟨_, hp.completes⟩) hret

/-- A step moves the depth of the call stack as the account says. -/
theorem depth_step (E : Environment α τ) (m : Machine α τ) :
    (m.step E).machine.core.calls.depth + (m.completed? E).toList.count .ret =
      m.core.calls.depth + (m.completed? E).toList.count .callFunc := by
  by_cases hcall : m.completed? E = some .callFunc
  · rw [depth_of_call hcall, hcall]
    rfl
  · by_cases hret : m.completed? E = some .ret
    · rw [depth_of_ret hret, hret]
      rfl
    · have hcalls : (m.completed? E).toList.count .callFunc = 0 :=
        List.count_eq_zero.mpr (by simpa using hcall)
      have hrets : (m.completed? E).toList.count .ret = 0 :=
        List.count_eq_zero.mpr (by simpa using hret)
      rw [calls_of_other hcall hret, hcalls, hrets]

/-! ## Where frames lead -/

/-- What every step keeps of the frames: there are not too many of them, each leads behind
a call of the program, and the frame pointer they lead back to in the end is zero. -/
structure Rooted (m : Machine α τ) : Prop where
  depth : ∀ limit ∈ m.config.maxCallDepth, m.core.calls.depth ≤ limit
  returns : ∀ f ∈ m.core.calls.frames, m.program.FollowsCall f.returnPc
  base : (m.core.pointers 0).head? = some 0

theorem Executes.followsCall {i : Instruction} (h : m.Executes i .callFunc) :
    m.program.FollowsCall (m.core.pc + 1) := by
  have hfetch : m.program.fetch? m.core.pc = some i := h.current
  refine ⟨m.core.pc, i, ?_, hfetch, h.decoded, rfl⟩
  have hsome : ¬m.program.length ≤ m.core.pc := by
    rw [← Program.fetch?_eq_none_iff, hfetch]
    exact Option.some_ne_none i
  exact Nat.lt_of_not_le hsome

theorem Moves.depth_le_limit {c : Core} (hm : m.Moves c) {limit : Nat}
    (hlimit : limit ∈ m.config.maxCallDepth) (h : m.core.calls.depth ≤ limit) :
    c.calls.depth ≤ limit := by
  cases hm with
  | still _ hcalls _ | push _ _ hcalls _ | pop _ _ _ hcalls _ =>
      rw [hcalls]
      exact h
  | call hp _ _ hcalls _ _ =>
      cases hp.resolves with
      | callFunc _ _ hroom =>
          -- The call was made only because there was room for one more frame.
          rw [hcalls, CallStack.depth_push]
          exact hroom limit hlimit
  | ret _ hframe _ _ _ hcalls _ _ =>
      rw [CallStack.depth_of_top hframe, ← hcalls] at h
      exact Nat.le_of_succ_le h

theorem Moves.followsCall {c : Core} (hm : m.Moves c)
    (h : ∀ f ∈ m.core.calls.frames, m.program.FollowsCall f.returnPc) :
    ∀ f ∈ c.calls.frames, m.program.FollowsCall f.returnPc := by
  intro f hf
  cases hm with
  | still _ hcalls _ | push _ _ hcalls _ | pop _ _ _ hcalls _ =>
      rw [hcalls] at hf
      exact h f hf
  | call hp _ _ hcalls _ _ =>
      rw [hcalls] at hf
      rcases Array.mem_push.mp hf with hold | rfl
      · exact h f hold
      · exact hp.followsCall
  | ret _ hframe _ _ _ hcalls _ _ =>
      rw [hcalls] at hf
      exact h f (CallStack.mem_of_mem_rest hframe hf)

theorem Transition.rooted (ht : Transition E m o) (h : m.Rooted) : o.machine.Rooted := by
  have hm := ht.moves
  refine ⟨?_, ?_, ?_⟩
  · rw [ht.config_eq]
    intro limit hlimit
    exact hm.depth_le_limit hlimit (h.depth limit hlimit)
  · rw [ht.program_eq]
    exact hm.followsCall h.returns
  · rw [hm.head?_pointers (Nat.zero_le _) (Nat.zero_le _)]
    exact h.base

theorem rooted_boot (config : Config) (p : Program) (w : World α τ) :
    (boot config p w).Rooted := by
  refine ⟨fun _ _ => Nat.zero_le _, ?_, rfl⟩
  intro f hf
  cases hf
  contradiction

/-- The frame pointer that the oldest frame leads back to is zero. -/
theorem Rooted.savedFp_eq_zero (h : m.Rooted) {f : Frame}
    (hf : m.core.calls.frames[0]? = some f) : f.savedFp = 0 := by
  have hhead : m.core.calls.frames.toList.head? = some f := by
    rw [List.head?_eq_getElem?, Array.getElem?_toList]
    exact hf
  have hbase := h.base
  rw [Core.pointers, List.drop_zero, List.head?_append, List.head?_map, hhead] at hbase
  exact Option.some.inj hbase

theorem Rooted.fp_eq_zero (h : m.Rooted) (hdepth : m.core.calls.depth = 0) :
    m.core.fp = 0 := by
  have hbase := h.base
  rw [Core.pointers_of_depth_le (Nat.le_of_eq hdepth)] at hbase
  exact Option.some.inj hbase

theorem Rooted.followsCall_of_ret (h : m.Rooted) {i : Instruction} (hret : m.Completes E i .ret) :
    m.program.FollowsCall (m.step E).machine.core.pc := by
  rcases hret.ret with ⟨v, frame, hframe, -, -, hp⟩
  rw [step_of_update hp]
  exact h.returns frame (CallStack.mem_of_top hframe)

end Step

/-! ## Runs -/

theorem depth_after (E : Environment α τ) (m : Machine α τ) (n : Nat) :
    (m.after E n).core.calls.depth + (m.history E n).count .ret =
      m.core.calls.depth + (m.history E n).count .callFunc := by
  induction n with
  | zero => rfl
  | succ n ih =>
      have hstep := depth_step E (m.after E n)
      rw [history_succ, List.count_append, List.count_append, after_succ]
      omega

theorem rooted_after (E : Environment α τ) (config : Config) (p : Program) (w : World α τ)
    (n : Nat) : ((boot config p w).after E n).Rooted :=
  after_induction E (rooted_boot config p w) (fun _ _ h ht => ht.rooted h) n

/-- At every point of every run, the depth of the call stack is the number of calls less
the number of returns that have succeeded, and within its limit; every saved frame leads
behind a call of the program; the oldest one, or the machine itself if there is none, has
its frame at the bottom of the stack. So a return resumes behind a call. -/
theorem frames_lead_behind_calls (E : Environment α τ) (config : Config) (p : Program)
    (w : World α τ) (n : Nat) :
    ((boot config p w).after E n).core.calls.depth + ((boot config p w).history E n).count .ret =
      ((boot config p w).history E n).count .callFunc ∧
    (∀ limit ∈ config.maxCallDepth,
      ((boot config p w).after E n).core.calls.depth ≤ limit) ∧
    (∀ f ∈ ((boot config p w).after E n).core.calls.frames,
      p.FollowsCall f.returnPc ∧ f.returnPc ≤ p.length) ∧
    (∀ f, ((boot config p w).after E n).core.calls.frames[0]? = some f → f.savedFp = 0) ∧
    (((boot config p w).after E n).core.calls.depth = 0 →
      ((boot config p w).after E n).core.fp = 0) ∧
    (∀ i, ((boot config p w).after E n).Completes E i .ret →
      p.FollowsCall (((boot config p w).after E n).step E).machine.core.pc) := by
  have hrooted := rooted_after E config p w n
  have hprogram : ((boot config p w).after E n).program = p := program_after E _ n
  have hconfig : ((boot config p w).after E n).config = config := config_after E _ n
  refine ⟨?_, ?_, ?_, fun f hf => hrooted.savedFp_eq_zero hf, hrooted.fp_eq_zero, ?_⟩
  · rw [depth_after]
    exact Nat.zero_add _
  · have hdepth := hrooted.depth
    rw [hconfig] at hdepth
    exact hdepth
  · intro f hf
    have hfollows := hrooted.returns f hf
    rw [hprogram] at hfollows
    exact ⟨hfollows, hfollows.le_length⟩
  · intro i hret
    have hfollows := hrooted.followsCall_of_ret hret
    rw [hprogram] at hfollows
    exact hfollows

end Machine

end RegisterMachine
