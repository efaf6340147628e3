import RegisterMachine.Proofs.Runs

/-!
# Stopping, and runs that are split

A machine stops for one of three reasons, and each of them tells what its last step was: a
fault that the step failed, an exit that it executed an exit, the end of the program that
it found no instruction. A machine that has stopped stays as it is.

A run is a sequence of steps, so it makes no difference where it is taken over from single
steps (`Machine.returns_after_iff`), also behind the point where the machine has stopped. Only
a failure is reported once: by the step that fails or by the run that contains it. A run that
starts behind it finds a stopped machine.
-/

namespace RegisterMachine

variable {α τ : Type}

namespace Machine

section Stopping

variable {E : Environment α τ} {m : Machine α τ} {o : Outcome α τ}

theorem step_of_exit {i : Instruction} (hx : m.Executes i .exit) :
    m.step E = ⟨{ m.advance with status := .halted .exit }, .ok (),
      [.dispatched m.core.pc .exit]⟩ := by
  have heffect : m.advance.effect i .exit = .ok .exit := rfl
  rw [step_eq_execute hx]
  simp only [execute, hx.decoded, heffect, perform]

theorem step_of_length_le_pc (hs : m.status = .running) (hend : m.program.length ≤ m.core.pc) :
    m.step E = ⟨{ m with status := .halted .endOfProgram }, .ok (), []⟩ :=
  step_of_ended hs ((Program.fetch?_eq_none_iff _ _).mpr hend)

/-- What a step leaves of a machine that was running, with the reason. -/
theorem Transition.status_cases (ht : Transition E m o) (hs : m.status = .running) :
    o.machine.status = .running ∧ o.result = .ok () ∨
    o.machine.status = .halted .fault ∧ (∃ e, o.result = .error e) ∨
    o.machine.status = .halted .exit ∧ o.result = .ok () ∧ (∃ i, m.Executes i .exit) ∨
    o.machine.status = .halted .endOfProgram ∧ o.result = .ok () ∧
      m.program.length ≤ m.core.pc := by
  cases ht with
  | halted hhalted =>
      rw [hs] at hhalted
      cases hhalted
  | updated | printed | invoked => exact .inl ⟨hs, rfl⟩
  | spent | undecoded | refused | unprinted | uninvoked => exact .inr (.inl ⟨rfl, _, rfl⟩)
  | exited hp =>
      have hx := hp.toExecutes
      cases hp.resolves with
      | exit => exact .inr (.inr (.inl ⟨rfl, rfl, _, hx⟩))
  | ended _ hc =>
      exact .inr (.inr (.inr ⟨rfl, rfl, (Program.fetch?_eq_none_iff _ _).mp hc⟩))

theorem Transition.status_eq_fault_iff (ht : Transition E m o) (hs : m.status = .running) :
    o.machine.status = .halted .fault ↔ ∃ e, o.result = .error e := by
  rcases ht.status_cases hs with ⟨h, ho⟩ | ⟨h, ho⟩ | ⟨h, ho, -⟩ | ⟨h, ho, -⟩
  · simp [h, ho]
  · simp [h, ho]
  · simp [h, ho]
  · simp [h, ho]

theorem Transition.executes_exit (ht : Transition E m o) (hs : m.status = .running)
    (hexit : o.machine.status = .halted .exit) : ∃ i, m.Executes i .exit := by
  rcases ht.status_cases hs with ⟨h, -⟩ | ⟨h, -⟩ | ⟨-, -, hx⟩ | ⟨h, -⟩
  · simp [h] at hexit
  · simp [h] at hexit
  · exact hx
  · simp [h] at hexit

theorem Transition.length_le_pc (ht : Transition E m o) (hs : m.status = .running)
    (hended : o.machine.status = .halted .endOfProgram) : m.program.length ≤ m.core.pc := by
  rcases ht.status_cases hs with ⟨h, -⟩ | ⟨h, -⟩ | ⟨h, -⟩ | ⟨-, -, hle⟩
  · simp [h] at hended
  · simp [h] at hended
  · simp [h] at hended
  · exact hle

end Stopping

/-! ## Steps before a run -/

theorem after_add (E : Environment α τ) (m : Machine α τ) (j k : Nat) :
    m.after E (j + k) = (m.after E j).after E k := by
  induction k with
  | zero => rfl
  | succ k ih => rw [← Nat.add_assoc, after_succ, after_succ, ih]

section Splitting

variable {E : Environment α τ} {m : Machine α τ} {r : Except Error Report} {t : Machine α τ}

theorem after_of_halted {reason : Halt} (hs : m.status = .halted reason) (k : Nat) :
    m.after E k = m := by
  induction k with
  | zero => rfl
  | succ k ih => rw [after_succ, ih, step_of_halted E hs]

theorem running_of_error {e : Error} (he : (m.step E).result = .error e) :
    m.status = .running := by
  cases hs : m.status with
  | running => rfl
  | halted reason =>
      rw [step_of_halted E hs] at he
      cases he

theorem halted_of_error {e : Error} (he : (m.step E).result = .error e) :
    (m.step E).machine.status = .halted .fault :=
  ((transition_step E m).status_eq_fault_iff (running_of_error he)).mpr ⟨e, he⟩

/-- A machine that still runs has not failed before. -/
theorem ok_of_running_after {n : Nat} (hs : (m.after E n).status = .running) :
    ∀ j < n, ((m.after E j).step E).result = .ok () := by
  intro j hj
  cases ho : ((m.after E j).step E).result with
  | ok _ => rfl
  | error e =>
      rcases Nat.exists_eq_add_of_lt hj with ⟨k, rfl⟩
      have hfault : (m.after E (j + 1)).status = .halted .fault := halted_of_error ho
      rw [Nat.add_right_comm, after_add, after_of_halted hfault, hfault] at hs
      cases hs

/-- A run may be taken over after a step that succeeds, and after no step at all. -/
theorem returns_step_iff (ho : (m.step E).result = .ok ()) :
    (m.step E).machine.Returns E r t ↔ m.Returns E r t := by
  constructor
  · intro h
    cases hs : m.status with
    | running => exact returns_of_ok hs ho h
    | halted reason =>
        rw [step_of_halted E hs] at h
        exact h
  · intro h
    induction h using Returns.induction with
    | halted m reason hs =>
        rw [step_of_halted E hs]
        exact returns_of_halted hs
    | failed m e hs he =>
        rw [he] at ho
        cases ho
    | next m r t hs ho' h ih => exact h

theorem returns_after_iff {k : Nat} (hok : ∀ j < k, ((m.after E j).step E).result = .ok ()) :
    (m.after E k).Returns E r t ↔ m.Returns E r t := by
  induction k with
  | zero => rfl
  | succ k ih =>
      rw [after_succ, returns_step_iff (hok k (Nat.lt_succ_self k))]
      exact ih fun j hj => hok j (Nat.lt_succ_of_lt hj)

theorem returns_iff_of_halted {reason : Halt} (hs : m.status = .halted reason) :
    m.Returns E r t ↔ r = .ok ⟨reason, m.steps⟩ ∧ t = m := by
  constructor
  · exact (returns_of_halted hs).unique
  · rintro ⟨rfl, rfl⟩
    exact returns_of_halted hs

theorem returns_iff_of_error {e : Error} (he : (m.step E).result = .error e) :
    m.Returns E r t ↔ r = .error e ∧ t = (m.step E).machine := by
  have hreturns := returns_of_error (running_of_error he) he
  constructor
  · exact hreturns.unique
  · rintro ⟨rfl, rfl⟩
    exact hreturns

/-- The first failure among the steps is the last thing that happens. -/
theorem after_eq_of_error {j k : Nat} {e : Error} (hj : j < k)
    (he : ((m.after E j).step E).result = .error e) :
    m.after E k = ((m.after E j).step E).machine := by
  rcases Nat.exists_eq_add_of_lt hj with ⟨d, rfl⟩
  rw [Nat.add_right_comm, after_add]
  exact after_of_halted (halted_of_error he) d

end Splitting

/-- A machine in any state. If it has stopped, a step and a run leave it as it is, ask nothing
of the world and succeed, and the run reports why it stopped. If not, a step stops it with a
fault just if the step fails, with an exit just if it executes one, and at the end of the
program just if the program counter is there, and then changes nothing else. And whatever
number of steps is taken first, a run comes to what the run alone comes to, unless one of the
steps has failed: then the run alone fails with that error, in the state that the steps have
left, and a run from there on only reports the fault. -/
theorem steps_agree_with_run (E : Environment α τ) (m : Machine α τ) :
    (∀ reason, m.status = .halted reason →
      m.step E = ⟨m, .ok (), []⟩ ∧
      ∀ (ω : Type) (keep : ω → List Event → ω) (kept : ω) (fuel : Nat),
        m.runKeeping E keep fuel kept =
          ⟨m, some (.ok ⟨reason, m.steps⟩), keep kept [.halted reason m.steps]⟩) ∧
    (m.status = .running →
      ((m.step E).machine.status = .halted .fault ↔ ∃ e, (m.step E).result = .error e) ∧
      ((m.step E).machine.status = .halted .exit ↔ ∃ i, m.Executes i .exit) ∧
      ((m.step E).machine.status = .halted .endOfProgram ↔ m.program.length ≤ m.core.pc) ∧
      (m.program.length ≤ m.core.pc →
        m.step E = ⟨{ m with status := .halted .endOfProgram }, .ok (), []⟩)) ∧
    ∀ k,
      ((∀ j < k, ((m.after E j).step E).result = .ok ()) →
        ∀ r t, (m.after E k).Returns E r t ↔ m.Returns E r t) ∧
      ∀ j < k, ∀ e, ((m.after E j).step E).result = .error e →
        (∀ r t, m.Returns E r t ↔ r = .error e ∧ t = m.after E k) ∧
        ∀ r t, (m.after E k).Returns E r t ↔
          r = .ok ⟨.fault, (m.after E k).steps⟩ ∧ t = m.after E k := by
  have ht := transition_step E m
  refine ⟨?_, ?_, ?_⟩
  · intro reason hs
    exact ⟨step_of_halted E hs, fun ω keep kept fuel => runKeeping_of_halted E keep kept hs fuel⟩
  · intro hs
    refine ⟨ht.status_eq_fault_iff hs, ⟨ht.executes_exit hs, ?_⟩, ⟨ht.length_le_pc hs, ?_⟩,
      step_of_length_le_pc hs⟩
    · rintro ⟨i, hx⟩
      rw [step_of_exit hx]
    · intro hend
      rw [step_of_length_le_pc hs hend]
  · intro k
    refine ⟨fun hok r t => returns_after_iff hok, ?_⟩
    intro j hj e he
    rw [after_eq_of_error hj he]
    refine ⟨?_, fun r t => returns_iff_of_halted (halted_of_error he)⟩
    intro r t
    rw [← returns_after_iff (ok_of_running_after (running_of_error he))]
    exact returns_iff_of_error he

end Machine

end RegisterMachine
