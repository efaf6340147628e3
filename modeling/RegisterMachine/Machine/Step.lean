import RegisterMachine.Machine.Handler

/-!
# Steps and runs

A step executes one instruction. Its outcome is the machine after it, success or failure, and the
events on the way. A machine that has stopped stays as it is; one that has no instruction left stops
without executing anything, even when its budget is spent; a failing step stops the machine with a
fault.

A run is a sequence of steps up to the first failure or the end. A program need not end, so a run is
given the number of steps it may take at most, and says so if that was not enough.
-/

namespace RegisterMachine

variable {α τ : Type}

namespace Machine

/-- What a step comes to. There is a machine also when the step has failed, since a fault stops it
where it is. -/
structure Outcome (α τ : Type) where
  machine : Machine α τ
  result : Except Error Unit
  events : List Event

/-- The outcome of a failing instruction: the machine stops as it has been left. -/
def fail (m : Machine α τ) (pc : Nat) (i : Instruction) (e : Error) (events : List Event) :
    Outcome α τ :=
  ⟨{ m with status := .halted .fault }, .error e, events ++ [.failed pc i.opcode e]⟩

def finish (pc : Nat) (i : Instruction) : EStateM.Result Error (Working α τ) Unit → Outcome α τ
  | .ok () s => ⟨s.machine, .ok (), s.events⟩
  | .error e s => s.machine.fail pc i e s.events

/-- One step: a handler at work on the machine, which starts with nothing reported. A machine that
has stopped does not move. -/
def step (E : Environment α τ) (m : Machine α τ) : Outcome α τ :=
  match m.status with
  | .halted _ => ⟨m, .ok (), []⟩
  | .running =>
    match m.current? with
    | none => ⟨{ m with status := .halted .endOfProgram }, .ok (), []⟩
    | some i => finish m.core.pc i ((Handler.execute E i).run ⟨m, []⟩)

structure Report where
  halt : Halt
  steps : Nat
  deriving DecidableEq, Repr

/-- What a run comes to: the machine after it, the result unless the steps ran out first, and
whatever has been kept of its events. -/
structure Run (ω α τ : Type) where
  machine : Machine α τ
  result : Option (Except Error Report)
  kept : ω

/-- A run of at most so many steps, of whose events `keep` keeps what it wants. -/
def runKeeping {ω : Type} (E : Environment α τ) (keep : ω → List Event → ω) (fuel : Nat)
    (kept : ω) (m : Machine α τ) : Run ω α τ :=
  match m.status with
  | .halted reason =>
    ⟨m, some (.ok ⟨reason, m.steps⟩), keep kept [.halted reason m.steps]⟩
  | .running =>
    match fuel with
    | 0 => ⟨m, none, kept⟩
    | fuel + 1 =>
      let o := m.step E
      match o.result with
      | .error e => ⟨o.machine, some (.error e), keep kept o.events⟩
      | .ok () => runKeeping E keep fuel (keep kept o.events) o.machine

def run (E : Environment α τ) (fuel : Nat) (m : Machine α τ) : Run Unit α τ :=
  m.runKeeping E (fun _ _ => ()) fuel ()

theorem step_of_halted (E : Environment α τ) {m : Machine α τ} {reason : Halt}
    (h : m.status = .halted reason) : m.step E = ⟨m, .ok (), []⟩ := by
  simp [step, h]

section Runs

variable {ω : Type} (E : Environment α τ) (keep : ω → List Event → ω) (kept : ω)

/-- A run of a stopped machine reports why it stopped, whatever steps it may take. -/
theorem runKeeping_of_halted {m : Machine α τ} {reason : Halt} (h : m.status = .halted reason)
    (fuel : Nat) :
    m.runKeeping E keep fuel kept =
      ⟨m, some (.ok ⟨reason, m.steps⟩), keep kept [.halted reason m.steps]⟩ := by
  unfold runKeeping
  simp [h]

theorem runKeeping_zero {m : Machine α τ} (h : m.status = .running) :
    m.runKeeping E keep 0 kept = ⟨m, none, kept⟩ := by
  unfold runKeeping
  simp [h]

theorem runKeeping_of_error {m : Machine α τ} {e : Error} (h : m.status = .running)
    (he : (m.step E).result = .error e) (fuel : Nat) :
    m.runKeeping E keep (fuel + 1) kept =
      ⟨(m.step E).machine, some (.error e), keep kept (m.step E).events⟩ := by
  unfold runKeeping
  simp [h, he]

theorem runKeeping_of_ok {m : Machine α τ} (h : m.status = .running)
    (ho : (m.step E).result = .ok ()) (fuel : Nat) :
    m.runKeeping E keep (fuel + 1) kept =
      (m.step E).machine.runKeeping E keep fuel (keep kept (m.step E).events) := by
  rw [runKeeping]
  simp [h, ho]

/-- A run that has come to a result comes to the same with more steps to take. -/
theorem runKeeping_add {fuel : Nat} {kept : ω} {m : Machine α τ}
    (h : (m.runKeeping E keep fuel kept).result.isSome) (extra : Nat) :
    m.runKeeping E keep (fuel + extra) kept = m.runKeeping E keep fuel kept := by
  induction fuel generalizing kept m with
  | zero =>
    cases hs : m.status with
    | halted reason => rw [runKeeping_of_halted E keep kept hs, runKeeping_of_halted E keep kept hs]
    | running => simp [runKeeping_zero E keep kept hs] at h
  | succ fuel ih =>
    have hfuel : fuel + 1 + extra = fuel + extra + 1 := by omega
    rw [hfuel]
    cases hs : m.status with
    | halted reason => rw [runKeeping_of_halted E keep kept hs, runKeeping_of_halted E keep kept hs]
    | running =>
      cases hr : (m.step E).result with
      | error e => rw [runKeeping_of_error E keep kept hs hr, runKeeping_of_error E keep kept hs hr]
      | ok _ =>
        rw [runKeeping_of_ok E keep kept hs hr] at h
        rw [runKeeping_of_ok E keep kept hs hr, runKeeping_of_ok E keep kept hs hr]
        exact ih h

end Runs

end Machine

end RegisterMachine
