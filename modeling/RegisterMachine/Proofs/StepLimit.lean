import RegisterMachine.Program.Samples
import RegisterMachine.Proofs.Fault
import RegisterMachine.Proofs.Runs

/-!
# The step limit

A limit on the number of instructions cuts a run short and does nothing else. Below the
limit a machine does what it does without one (`Machine.step_limited`), so a run that ends
within the limit comes to the same (`Machine.Returns.limited`), and any other run is at the
limit after just so many steps (`Machine.returns_of_beyond`).

A step looks for the next instruction before it looks at the budget. So a program that ends
with its last instruction within the limit is not told that it has reached it.
-/

namespace RegisterMachine

variable {α τ : Type}

def Config.unlimited (c : Config) : Config := { c with maxSteps := none }

namespace Machine

def limited (m : Machine α τ) (n : Nat) : Machine α τ :=
  { m with config := m.config.withMaxSteps n }

/-! ## One step -/

theorem execute_limited (E : Environment α τ) (m : Machine α τ) (n pc : Nat)
    (i : Instruction) :
    (m.limited n).execute E pc i =
      { m.execute E pc i with machine := (m.execute E pc i).machine.limited n } := by
  unfold execute
  cases hd : i.decode with
  | error e => rfl
  | ok op =>
      have heffect : (m.limited n).effect i op = m.effect i op := rfl
      simp only [heffect]
      cases he : m.effect i op with
      | error e => rfl
      | ok e =>
          cases e with
          | update u => rfl
          | print line =>
              have hworld : (m.limited n).world = m.world := rfl
              simp only [perform, hworld]
              cases hw : (m.world.writeLine E line).result with
              | ok _ => rfl
              | error e => rfl
          | invoke host args target =>
              have hworld : (m.limited n).world = m.world := rfl
              simp only [perform, hworld]
              cases hw : (m.world.invoke E host args).result with
              | ok reply => rfl
              | error e => rfl
          | exit => rfl

section Step

variable {E : Environment α τ} {m : Machine α τ} {o : Outcome α τ} {n : Nat}

/-- Below the limit, a step does what it does without one. -/
theorem step_limited (hfree : m.config.maxSteps = none)
    (hleft : m.status = .running → m.current? ≠ none → m.steps < n) :
    (m.limited n).step E = { m.step E with machine := (m.step E).machine.limited n } := by
  have hstatus : (m.limited n).status = m.status := rfl
  have hcurrent : (m.limited n).current? = m.current? := rfl
  have hspent : m.spentBudget? = none := by
    rw [spentBudget?_eq_none_iff, hfree]
    intro limit hlimit
    cases hlimit
  rw [step_eq, step_eq]
  rw [hstatus, hcurrent, hspent]
  cases hs : m.status with
  | halted reason => rfl
  | running =>
      cases hc : m.current? with
      | none => rfl
      | some i =>
          have hlt : m.steps < n := hleft hs (by rw [hc]; exact Option.some_ne_none i)
          have hspent' : (m.limited n).spentBudget? = none := by
            rw [spentBudget?_eq_none_iff]
            intro limit hlimit
            cases hlimit
            exact hlt
          rw [hspent']
          exact execute_limited E m.advance n m.core.pc i

theorem Transition.maxSteps_eq_none (ht : Transition E m o) (hfree : m.config.maxSteps = none) :
    o.machine.config.maxSteps = none := by
  rw [ht.config_eq, hfree]

theorem Transition.steps_le (ht : Transition E m o) :
    m.steps ≤ o.machine.steps ∧ o.machine.steps ≤ m.steps + 1 := by
  cases ht with
  | halted | ended | spent => exact ⟨Nat.le_refl _, Nat.le_succ _⟩
  | _ => exact ⟨Nat.le_succ _, Nat.le_refl _⟩

/-- Without a limit, every instruction that is reached is counted. -/
theorem Transition.steps_of_current (ht : Transition E m o) (hfree : m.config.maxSteps = none)
    (hs : m.status = .running) (hc : m.current? ≠ none) : o.machine.steps = m.steps + 1 := by
  cases ht with
  | halted hhalted =>
      rw [hs] at hhalted
      cases hhalted
  | ended _ hnone => exact absurd hnone hc
  | spent _ _ hb =>
      have hlimit := (spentBudget?_eq_some hb).1
      rw [hfree] at hlimit
      cases hlimit
  | _ => rfl

/-- Under a limit, no more instructions are counted than it allows. -/
theorem Transition.steps_le_limit (ht : Transition E m o) (hlimit : n ∈ m.config.maxSteps)
    (h : m.steps ≤ n) : o.machine.steps ≤ n := by
  cases ht with
  | halted | ended | spent => exact h
  | undecoded _ _ hb _ => exact (spentBudget?_eq_none_iff m).mp hb n hlimit
  | refused hx _ => exact (spentBudget?_eq_none_iff m).mp hx.budget n hlimit
  | updated hp | printed hp _ | unprinted hp _ | invoked hp _ | uninvoked hp _ | exited hp =>
      exact (spentBudget?_eq_none_iff m).mp hp.budget n hlimit

theorem step_of_spent {i : Instruction} (hs : m.status = .running) (hc : m.current? = some i)
    (hb : m.spentBudget? = some n) : m.step E = m.fail m.core.pc i (.stepLimitExceeded n) [] := by
  rw [step_eq]
  simp only [hs, hc, hb]

end Step

/-! ## Runs -/

section Runs

variable {E : Environment α τ} {m t : Machine α τ} {r : Except Error Report} {n : Nat}

theorem Returns.steps_le (h : m.Returns E r t) : m.steps ≤ t.steps := by
  induction h using Returns.induction with
  | halted m reason hs => exact Nat.le_refl _
  | failed m e hs he => exact (transition_step E m).steps_le.1
  | next m r t hs ho h ih => exact Nat.le_trans (transition_step E m).steps_le.1 ih

/-- A run under the limit goes on where the run without a limit does. -/
theorem limited_returns_of_ok (hfree : m.config.maxSteps = none) (hs : m.status = .running)
    (hleft : m.current? ≠ none → m.steps < n) (ho : (m.step E).result = .ok ())
    (h : ((m.step E).machine.limited n).Returns E r t) : (m.limited n).Returns E r t := by
  have hstep := step_limited (E := E) hfree fun _ => hleft
  refine returns_of_ok (m := m.limited n) hs ?_ ?_
  · rw [hstep]
    exact ho
  · rw [hstep]
    exact h

/-- A run that ends within the limit comes to the same under it. -/
theorem Returns.limited (hfree : m.config.maxSteps = none) (h : m.Returns E r t)
    (hn : t.steps ≤ n) : (m.limited n).Returns E r (t.limited n) := by
  induction h using Returns.induction with
  | halted m reason hs => exact returns_of_halted (m := m.limited n) hs
  | failed m e hs he =>
      have hstep := step_limited (E := E) hfree (n := n) fun _ hc => by
        have hcounted := (transition_step E m).steps_of_current hfree hs hc
        omega
      have hreturns := returns_of_error (E := E) (m := m.limited n) hs (by rw [hstep]; exact he)
      rw [hstep] at hreturns
      exact hreturns
  | next m r t hs ho h ih =>
      have ht := transition_step E m
      refine limited_returns_of_ok hfree hs ?_ ho (ih (ht.maxSteps_eq_none hfree) hn)
      intro hc
      have hcounted := ht.steps_of_current hfree hs hc
      have hle := h.steps_le
      omega

/-- At the limit, a machine with an instruction left fails and leaves all as it is. -/
theorem limited_returns_of_steps_eq {i : Instruction} (hs : m.status = .running)
    (hc : m.current? = some i) (hn : m.steps = n) :
    (m.limited n).Returns E (.error (.stepLimitExceeded n))
      { m.limited n with status := .halted .fault } := by
  have hspent : (m.limited n).spentBudget? = some n := by
    simp [spentBudget?, limited, Config.withMaxSteps, hn]
  have hstep := step_of_spent (E := E) (m := m.limited n) hs hc hspent
  have hreturns := returns_of_error (E := E) (m := m.limited n) hs (by rw [hstep]; rfl)
  rw [hstep] at hreturns
  exact hreturns

/-- A run that goes beyond the limit is stopped at it. The induction is on the number of
instructions that are left below the limit. -/
theorem returns_of_beyond (hfree : m.config.maxSteps = none) (hs : m.status = .running)
    (hbeyond : ¬∃ r t, m.Returns E r t ∧ t.steps ≤ n) {k : Nat} (hk : m.steps + k = n) :
    (m.after E k).steps = n ∧
      (m.limited n).Returns E (.error (.stepLimitExceeded n))
        { (m.after E k).limited n with status := .halted .fault } := by
  induction k generalizing m with
  | zero =>
      refine ⟨hk, ?_⟩
      cases hc : m.current? with
      | none =>
          -- The program would end here, within the limit.
          have hended := step_of_ended (E := E) hs hc
          have hreturns := returns_of_ok hs (by rw [hended])
            (returns_of_halted (E := E) (m := (m.step E).machine) (by rw [hended]))
          rw [hended] at hreturns
          exact absurd ⟨_, _, hreturns, Nat.le_of_eq hk⟩ hbeyond
      | some i => exact limited_returns_of_steps_eq hs hc hk
  | succ k ih =>
      have ht := transition_step E m
      have hle := ht.steps_le.2
      cases ho : (m.step E).result with
      | error e =>
          exact absurd ⟨_, _, returns_of_error hs ho, by omega⟩ hbeyond
      | ok _ =>
          cases hs' : (m.step E).machine.status with
          | halted reason =>
              exact absurd ⟨_, _, returns_of_ok hs ho (returns_of_halted hs'), by omega⟩ hbeyond
          | running =>
              have hc : m.current? ≠ none := by
                intro hnone
                rw [step_of_ended hs hnone] at hs'
                cases hs'
              have hcounted := ht.steps_of_current hfree hs hc
              have hbeyond' : ¬∃ r t, (m.step E).machine.Returns E r t ∧ t.steps ≤ n := by
                rintro ⟨r, t, h, hle⟩
                exact hbeyond ⟨r, t, returns_of_ok hs ho h, hle⟩
              have hnext := ih (ht.maxSteps_eq_none hfree) hs' hbeyond' (by omega)
              rw [← after_step]
              exact ⟨hnext.1,
                limited_returns_of_ok hfree hs (fun _ => by omega) ho hnext.2⟩

theorem steps_after_le (hlimit : n ∈ m.config.maxSteps) (h : m.steps ≤ n) (k : Nat) :
    (m.after E k).steps ≤ n := by
  induction k with
  | zero => exact h
  | succ k ih =>
      refine (transition_step E (m.after E k)).steps_le_limit ?_ ih
      rw [config_after]
      exact hlimit

end Runs

/-- A limit cuts the run without a limit and changes nothing else. The run under the limit
ends, in one way, and never counts beyond the limit, so that a counter of 64 bits does not
wrap. If the run without a limit ends within it, both come to the same result in the same
state. If not, the run under the limit fails for having reached it, in the state in which
the other one is after just so many instructions. -/
theorem stepLimit_cuts_run (E : Environment α τ) (config : Config) (p : Program)
    (w : World α τ) (n : UInt64) :
    (∃ r t, (boot (config.withMaxSteps n.toNat) p w).Returns E r t ∧ t.steps ≤ n.toNat ∧
      ∀ r' t', (boot (config.withMaxSteps n.toNat) p w).Returns E r' t' → r' = r ∧ t' = t) ∧
    (∀ k, ((boot (config.withMaxSteps n.toNat) p w).after E k).steps ≤ n.toNat ∧
      ((boot (config.withMaxSteps n.toNat) p w).after E k).steps < UInt64.size) ∧
    (∀ r t, (boot config.unlimited p w).Returns E r t → t.steps ≤ n.toNat →
      (boot (config.withMaxSteps n.toNat) p w).Returns E r (t.limited n.toNat)) ∧
    ((¬∃ r t, (boot config.unlimited p w).Returns E r t ∧ t.steps ≤ n.toNat) →
      ∃ t, (boot (config.withMaxSteps n.toNat) p w).Returns E
          (.error (.stepLimitExceeded n.toNat)) t ∧
        t.steps = n.toNat ∧
        ((boot config.unlimited p w).after E n.toNat).steps = n.toNat ∧
        t.core = ((boot config.unlimited p w).after E n.toNat).core ∧
        t.world = ((boot config.unlimited p w).after E n.toNat).world) := by
  refine ⟨?_, ?_, fun r t h hn => h.limited rfl hn, ?_⟩
  · by_cases hends : ∃ r t, (boot config.unlimited p w).Returns E r t ∧ t.steps ≤ n.toNat
    · rcases hends with ⟨r, t, h, hn⟩
      have hsame : (boot (config.withMaxSteps n.toNat) p w).Returns E r (t.limited n.toNat) :=
        h.limited rfl hn
      exact ⟨r, _, hsame, hn, fun r' t' h' => hsame.unique h'⟩
    · rcases returns_of_beyond rfl rfl hends (Nat.zero_add n.toNat) with ⟨hsteps, hstopped⟩
      exact ⟨_, _, hstopped, Nat.le_of_eq hsteps, fun r' t' h' => hstopped.unique h'⟩
  · intro k
    have hle : ((boot (config.withMaxSteps n.toNat) p w).after E k).steps ≤ n.toNat :=
      steps_after_le rfl (Nat.zero_le _) k
    exact ⟨hle, Nat.lt_of_le_of_lt hle n.toNat_lt_size⟩
  · intro hnot
    rcases returns_of_beyond rfl rfl hnot (Nat.zero_add n.toNat) with ⟨hsteps, hstopped⟩
    exact ⟨_, hstopped, hsteps, hsteps, rfl, rfl⟩

-- The sample has four instructions: a limit of four is not reached, one of three is.
example : ((boot (Config.withMaxSteps {} 4) Program.arithmetic ⟨Standard.table {}, {}⟩).run
    Standard.scripted 5).result = some (.ok ⟨.endOfProgram, 4⟩) := rfl

example : ((boot (Config.withMaxSteps {} 3) Program.arithmetic ⟨Standard.table {}, {}⟩).run
    Standard.scripted 4).result = some (.error (.stepLimitExceeded 3)) := rfl

end Machine

end RegisterMachine
