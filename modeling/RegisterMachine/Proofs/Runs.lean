import RegisterMachine.Proofs.Step

/-!
# Runs that end

A program need not end, so a run is given the number of steps that it may take.
`Machine.Returns` leaves that number out: with enough steps to take, the run comes to a
result and leaves a machine behind. Which number was enough makes no difference
(`Machine.Returns.unique`), and what holds of a run that ends is shown along its steps
(`Machine.Returns.induction`).
-/

namespace RegisterMachine

variable {α τ : Type}

namespace Machine

/-- A run of the machine ends with a result, and leaves a machine behind. -/
def Returns (E : Environment α τ) (m : Machine α τ) (r : Except Error Report)
    (t : Machine α τ) : Prop :=
  ∃ fuel, m.run E fuel = ⟨t, some r, ()⟩

section Returns

variable {E : Environment α τ} {m : Machine α τ} {r : Except Error Report} {t : Machine α τ}

theorem returns_of_halted {reason : Halt} (hs : m.status = .halted reason) :
    m.Returns E (.ok ⟨reason, m.steps⟩) m :=
  ⟨0, runKeeping_of_halted E _ () hs 0⟩

theorem returns_of_error {e : Error} (hs : m.status = .running)
    (he : (m.step E).result = .error e) : m.Returns E (.error e) (m.step E).machine :=
  ⟨1, runKeeping_of_error E _ () hs he 0⟩

theorem returns_of_ok (hs : m.status = .running) (ho : (m.step E).result = .ok ())
    (h : (m.step E).machine.Returns E r t) : m.Returns E r t := by
  rcases h with ⟨fuel, hrun⟩
  exact ⟨fuel + 1, (runKeeping_of_ok E _ () hs ho fuel).trans hrun⟩

/-- A run that ends has stopped before, or fails in its first step, or goes on after it. -/
@[elab_as_elim] theorem Returns.induction
    {motive : ∀ (m : Machine α τ) (r : Except Error Report) (t : Machine α τ),
      m.Returns E r t → Prop}
    (halted : ∀ (m : Machine α τ) (reason : Halt) (hs : m.status = .halted reason),
      motive m (.ok ⟨reason, m.steps⟩) m (returns_of_halted hs))
    (failed : ∀ (m : Machine α τ) (e : Error) (hs : m.status = .running)
      (he : (m.step E).result = .error e),
      motive m (.error e) (m.step E).machine (returns_of_error hs he))
    (next : ∀ (m : Machine α τ) (r : Except Error Report) (t : Machine α τ)
      (hs : m.status = .running) (ho : (m.step E).result = .ok ())
      (h : (m.step E).machine.Returns E r t), motive (m.step E).machine r t h →
      motive m r t (returns_of_ok hs ho h))
    (h : m.Returns E r t) : motive m r t h := by
  rcases h with ⟨fuel, hrun⟩
  induction fuel generalizing m with
  | zero =>
      cases hs : m.status with
      | halted reason =>
          rw [run, runKeeping_of_halted E _ () hs] at hrun
          cases hrun
          exact halted _ reason hs
      | running =>
          rw [run, runKeeping_zero E _ () hs] at hrun
          cases hrun
  | succ fuel ih =>
      cases hs : m.status with
      | halted reason =>
          rw [run, runKeeping_of_halted E _ () hs] at hrun
          cases hrun
          exact halted _ reason hs
      | running =>
          cases ho : (m.step E).result with
          | error e =>
              rw [run, runKeeping_of_error E _ () hs ho] at hrun
              cases hrun
              exact failed m e hs ho
          | ok _ =>
              rw [run, runKeeping_of_ok E _ () hs ho] at hrun
              exact next m r t hs ho ⟨fuel, hrun⟩ (ih hrun)

/-- A run comes to one result. -/
theorem Returns.unique {r' : Except Error Report} {t' : Machine α τ} (h : m.Returns E r t)
    (h' : m.Returns E r' t') : r' = r ∧ t' = t := by
  rcases h with ⟨fuel, hrun⟩
  rcases h' with ⟨fuel', hrun'⟩
  have hmore : m.run E (fuel + fuel') = m.run E fuel :=
    runKeeping_add E _ (by rw [run] at hrun; rw [hrun]; rfl) fuel'
  have hmore' : m.run E (fuel' + fuel) = m.run E fuel' :=
    runKeeping_add E _ (by rw [run] at hrun'; rw [hrun']; rfl) fuel
  rw [Nat.add_comm fuel' fuel, hmore, hrun, hrun'] at hmore'
  cases hmore'
  exact ⟨rfl, rfl⟩

end Returns

end Machine

end RegisterMachine
