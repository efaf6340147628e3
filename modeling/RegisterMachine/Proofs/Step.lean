import RegisterMachine.Proofs.Handler

/-!
# What a step can do

`Machine.Transition` lists the outcomes of a step, with the reason for each:
three of them execute nothing, two refuse the instruction before it has touched
anything, and the others carry an effect out. `Machine.transition_step` says
that a step is one of these, so what holds of every step is a case analysis over
the list.

`Machine.after` is the machine after a number of steps. What every step keeps,
every run keeps: the program, the limits, the number of registers and the number
of host functions. The world outside moves only by host calls and printed lines,
which is what `World.Reaches` is the closure of.
-/

namespace RegisterMachine

variable {α τ : Type}

theorem HostTable.exists_function {t : HostTable α} {index : Nat} (h : index < t.size) :
    ∃ f, t.functions[index]? = some f :=
  ⟨_, Array.getElem?_eq_getElem h⟩

namespace World

/-- The worlds that a world can turn into: any host calls and any printed lines,
in any order. -/
inductive Reaches (E : Environment α τ) (w : World α τ) : World α τ → Prop
  | refl : Reaches E w w
  | invoke {v : World α τ} (h : Reaches E w v) (index : Nat) (args : List Value) :
      Reaches E w (v.invoke E index args).world
  | writeLine {v : World α τ} (h : Reaches E w v) (line : String) :
      Reaches E w (v.writeLine E line).world

/-- A host call neither adds nor removes a host function. -/
@[simp] theorem size_invoke (E : Environment α τ) (w : World α τ) (index : Nat)
    (args : List Value) : (w.invoke E index args).world.hosts.size = w.hosts.size := by
  unfold invoke
  split
  · rfl
  · simp

@[simp] theorem hosts_writeLine (E : Environment α τ) (w : World α τ) (line : String) :
    (w.writeLine E line).world.hosts = w.hosts := rfl

theorem Reaches.size_eq {E : Environment α τ} {w v : World α τ} (h : Reaches E w v) :
    v.hosts.size = w.hosts.size := by
  induction h with
  | refl => rfl
  | invoke _ index args ih => rw [size_invoke, ih]
  | writeLine _ line ih => rw [hosts_writeLine, ih]

theorem Reaches.trans {E : Environment α τ} {u v w : World α τ} (h : Reaches E u v)
    (h' : Reaches E v w) : Reaches E u w := by
  induction h' with
  | refl => exact h
  | invoke _ index args ih => exact .invoke ih index args
  | writeLine _ line ih => exact .writeLine ih line

end World

namespace Machine

/-! ## One step -/

/-- The next instruction is executed: there is one, there is budget for it, and
its tag names an operation. -/
structure Executes (m : Machine α τ) (i : Instruction) (op : Opcode) : Prop where
  running : m.status = .running
  current : m.current? = some i
  budget : m.spentBudget? = none
  decoded : i.decode = .ok op

theorem Executes.unique {m : Machine α τ} {i i' : Instruction} {op op' : Opcode}
    (h : m.Executes i op) (h' : m.Executes i' op') : i' = i ∧ op' = op := by
  have hcurrent := h.current.symm.trans h'.current
  cases hcurrent
  have hdecoded := h.decoded.symm.trans h'.decoded
  cases hdecoded
  exact ⟨rfl, rfl⟩

/-- The instruction that is executed comes down to an effect, on the machine that has counted it and
whose `pc` already points behind it. -/
structure Performs (m : Machine α τ) (i : Instruction) (op : Opcode) (e : Effect) : Prop
    extends Executes m i op where
  resolves : m.advance.core.Resolves m.config.maxCallDepth m.world.hosts.size i op e

/-- The world answers the next instruction with an error: a host function of the
table that it calls, or the sink that it prints to. -/
def Rejected (E : Environment α τ) (m : Machine α τ) (e : Error) : Prop :=
  (∃ i host args target f, m.Performs i .callMethod (.invoke host args target) ∧
    m.world.hosts.functions[host]? = some f ∧
    (E.call args f.memory m.world.sink).1 = .error e) ∨
  (∃ i line, m.Performs i .print (.print line) ∧
    (E.writeLine line m.world.sink).1 = .error e)

/-- The outcomes of a step, with a case for each way that it can go and all that is known then, so
that an invariant need not look at the step itself. -/
inductive Transition (E : Environment α τ) (m : Machine α τ) : Outcome α τ → Prop
  | halted {reason : Halt} (hs : m.status = .halted reason) :
      Transition E m ⟨m, .ok (), []⟩
  | ended (hs : m.status = .running) (hc : m.current? = none) :
      Transition E m ⟨{ m with status := .halted .endOfProgram }, .ok (), []⟩
  | spent {i : Instruction} {limit : Nat} (hs : m.status = .running)
      (hc : m.current? = some i) (hb : m.spentBudget? = some limit) :
      Transition E m (m.fail m.core.pc i (.stepLimitExceeded limit) [])
  | undecoded {i : Instruction} {e : InstructionError} (hs : m.status = .running)
      (hc : m.current? = some i) (hb : m.spentBudget? = none) (hd : i.decode = .error e) :
      Transition E m (m.advance.fail m.core.pc i (.instruction e) [])
  | refused {i : Instruction} {op : Opcode} {e : Error} (hx : m.Executes i op)
      (he : m.advance.effect i op = .error e) :
      Transition E m (m.advance.fail m.core.pc i e [.dispatched m.core.pc op])
  | updated {i : Instruction} {op : Opcode} {u : Update} (hp : m.Performs i op (.update u)) :
      Transition E m ⟨{ m.advance with core := m.advance.core.apply u }, .ok (),
        .dispatched m.core.pc op :: updateEvents (m.advance.core.apply u) u⟩
  | printed {i : Instruction} {op : Opcode} {line : String}
      (hp : m.Performs i op (.print line)) (hw : (m.world.writeLine E line).result = .ok ()) :
      Transition E m ⟨{ m.advance with world := (m.world.writeLine E line).world }, .ok (),
        .dispatched m.core.pc op :: (m.world.writeLine E line).events⟩
  | unprinted {i : Instruction} {op : Opcode} {line : String} {e : Error}
      (hp : m.Performs i op (.print line)) (hw : (m.world.writeLine E line).result = .error e) :
      Transition E m ({ m.advance with world := (m.world.writeLine E line).world }.fail
        m.core.pc i e (.dispatched m.core.pc op :: (m.world.writeLine E line).events))
  | invoked {i : Instruction} {op : Opcode} {host : Nat} {args : List Value}
      {target : Option Nat} {reply : Option Value} (hp : m.Performs i op (.invoke host args target))
      (hw : (m.world.invoke E host args).result = .ok reply) :
      Transition E m ⟨{ m.advance with
          core := receive m.advance.core target reply
          world := (m.world.invoke E host args).world }, .ok (),
        .dispatched m.core.pc op :: (m.world.invoke E host args).events⟩
  | uninvoked {i : Instruction} {op : Opcode} {host : Nat} {args : List Value}
      {target : Option Nat} {e : Error} (hp : m.Performs i op (.invoke host args target))
      (hw : (m.world.invoke E host args).result = .error e) :
      Transition E m ({ m.advance with world := (m.world.invoke E host args).world }.fail
        m.core.pc i e (.dispatched m.core.pc op :: (m.world.invoke E host args).events))
  | exited {i : Instruction} {op : Opcode} (hp : m.Performs i op .exit) :
      Transition E m ⟨{ m.advance with status := .halted .exit }, .ok (),
        [.dispatched m.core.pc op]⟩

/-- The outcome of carrying out the effect of the next instruction is one of the
outcomes of a step. -/
theorem transition_of_performs (E : Environment α τ) {m : Machine α τ} {i : Instruction}
    {op : Opcode} {e : Effect} (hp : m.Performs i op e) :
    Transition E m (m.advance.execute E m.core.pc i) := by
  have heffect : m.advance.effect i op = .ok e := hp.resolves.resolve
  simp only [execute, hp.decoded, heffect]
  cases e with
  | update u => exact .updated hp
  | print line =>
      have hworld : m.advance.world = m.world := rfl
      simp only [perform, hworld]
      cases hw : (m.world.writeLine E line).result with
      | ok _ => exact .printed hp hw
      | error err => exact .unprinted hp hw
  | invoke host args target =>
      have hworld : m.advance.world = m.world := rfl
      simp only [perform, hworld]
      cases hw : (m.world.invoke E host args).result with
      | ok reply => exact .invoked hp hw
      | error err => exact .uninvoked hp hw
  | exit => exact .exited hp

/-- A step does one of the things in the list. -/
theorem transition_step (E : Environment α τ) (m : Machine α τ) :
    Transition E m (m.step E) := by
  rw [step_eq]
  split
  · next reason hs => exact .halted hs
  · next hs =>
      split
      · next hc => exact .ended hs hc
      · next i hc =>
          split
          · next limit hb => exact .spent hs hc hb
          · next hb =>
              cases hd : i.decode with
              | error e =>
                  simp only [execute, hd]
                  exact .undecoded hs hc hb hd
              | ok op =>
                  have hx : m.Executes i op := ⟨hs, hc, hb, hd⟩
                  cases he : m.advance.effect i op with
                  | error e =>
                      simp only [execute, hd, he]
                      exact .refused hx he
                  | ok e => exact transition_of_performs E ⟨hx, .of_resolve he⟩

theorem step_of_ended {E : Environment α τ} {m : Machine α τ} (hs : m.status = .running)
    (hc : m.current? = none) :
    m.step E = ⟨{ m with status := .halted .endOfProgram }, .ok (), []⟩ := by
  simp only [step_eq, hs, hc]

theorem step_of_undecoded {E : Environment α τ} {m : Machine α τ} {i : Instruction}
    {e : InstructionError} (hs : m.status = .running) (hc : m.current? = some i)
    (hb : m.spentBudget? = none) (hd : i.decode = .error e) :
    m.step E = m.advance.fail m.core.pc i (.instruction e) [] := by
  simp only [step_eq, hs, hc, hb, execute, hd]

theorem step_eq_execute {E : Environment α τ} {m : Machine α τ} {i : Instruction}
    {op : Opcode} (hx : m.Executes i op) :
    m.step E = m.advance.execute E m.core.pc i := by
  simp only [step_eq, hx.running, hx.current, hx.budget]

/-- A step that changes the core only carries the change out. -/
theorem step_of_update {E : Environment α τ} {m : Machine α τ} {i : Instruction}
    {op : Opcode} {u : Update} (hp : m.Performs i op (.update u)) :
    (m.step E).machine = { m.advance with core := m.advance.core.apply u } := by
  have heffect : m.advance.effect i op = .ok (.update u) := hp.resolves.resolve
  rw [step_eq_execute hp.toExecutes]
  simp only [execute, hp.decoded, heffect, perform]

theorem step_of_refused {E : Environment α τ} {m : Machine α τ} {i : Instruction}
    {op : Opcode} {e : Error} (hx : m.Executes i op) (he : m.advance.effect i op = .error e) :
    m.step E = m.advance.fail m.core.pc i e [.dispatched m.core.pc op] := by
  rw [step_eq_execute hx]
  simp only [execute, hx.decoded, he]

section Invoke

variable {E : Environment α τ} {m : Machine α τ} {i : Instruction} {op : Opcode} {host : Nat}
  {args : List Value} {target : Option Nat}

/-- A host call that succeeds puts the reply where it was asked for. -/
theorem step_of_invoke {reply : Option Value} (hp : m.Performs i op (.invoke host args target))
    (hw : (m.world.invoke E host args).result = .ok reply) :
    m.step E = ⟨{ m.advance with
        core := receive m.advance.core target reply
        world := (m.world.invoke E host args).world }, .ok (),
      .dispatched m.core.pc op :: (m.world.invoke E host args).events⟩ := by
  have heffect : m.advance.effect i op = .ok (.invoke host args target) := hp.resolves.resolve
  have hworld : m.advance.world = m.world := rfl
  rw [step_eq_execute hp.toExecutes]
  simp only [execute, hp.decoded, heffect, perform, hworld, hw]

theorem step_of_invoke_error {e : Error} (hp : m.Performs i op (.invoke host args target))
    (hw : (m.world.invoke E host args).result = .error e) :
    m.step E = { m.advance with world := (m.world.invoke E host args).world }.fail m.core.pc i e
      (.dispatched m.core.pc op :: (m.world.invoke E host args).events) := by
  have heffect : m.advance.effect i op = .ok (.invoke host args target) := hp.resolves.resolve
  have hworld : m.advance.world = m.world := rfl
  rw [step_eq_execute hp.toExecutes]
  simp only [execute, hp.decoded, heffect, perform, hworld, hw]

end Invoke

def resolution? (m : Machine α τ) : Option (Except Error Effect) :=
  if m.status = .running ∧ m.spentBudget? = none then
    m.current?.bind fun i => i.decode.toOption.map fun op => m.advance.effect i op
  else none

theorem resolution?_eq_some_iff (m : Machine α τ) (x : Except Error Effect) :
    m.resolution? = some x ↔ ∃ i op, m.Executes i op ∧ m.advance.effect i op = x := by
  unfold resolution?
  constructor
  · intro h
    split at h
    · next hguard =>
        rcases Option.bind_eq_some_iff.mp h with ⟨i, hc, hmap⟩
        rcases Option.map_eq_some_iff.mp hmap with ⟨op, hdecode, rfl⟩
        cases hd : i.decode with
        | error e =>
            rw [hd] at hdecode
            cases hdecode
        | ok op' =>
            rw [hd] at hdecode
            cases hdecode
            exact ⟨i, op, ⟨hguard.1, hc, hguard.2, hd⟩, rfl⟩
    · cases h
  · rintro ⟨i, op, hx, rfl⟩
    rw [if_pos ⟨hx.running, hx.budget⟩, hx.current, Option.bind_some, hx.decoded]
    rfl

theorem Performs.resolution? {m : Machine α τ} {i : Instruction} {op : Opcode} {e : Effect}
    (hp : m.Performs i op e) : m.resolution? = some (.ok e) :=
  (resolution?_eq_some_iff m _).mpr ⟨i, op, hp.toExecutes, hp.resolves.resolve⟩

structure Completes (E : Environment α τ) (m : Machine α τ) (i : Instruction) (op : Opcode) :
    Prop extends Executes m i op where
  succeeds : (m.step E).result = .ok ()

/-- A step that succeeds has executed the next instruction, if there is one. -/
theorem completes_of_ok {E : Environment α τ} {m : Machine α τ} {i : Instruction}
    (hs : m.status = .running) (hc : m.current? = some i) (hok : (m.step E).result = .ok ()) :
    ∃ op, m.Completes E i op := by
  cases hb : m.spentBudget? with
  | some limit =>
      simp only [step_eq, hs, hc, hb] at hok
      cases hok
  | none =>
      cases hd : i.decode with
      | error e =>
          rw [step_of_undecoded hs hc hb hd] at hok
          cases hok
      | ok op => exact ⟨op, ⟨hs, hc, hb, hd⟩, hok⟩

/-- An instruction that succeeds has come down to an effect. -/
theorem Completes.performs {E : Environment α τ} {m : Machine α τ} {i : Instruction}
    {op : Opcode} (h : m.Completes E i op) : ∃ e, m.Performs i op e := by
  cases he : m.advance.effect i op with
  | ok e => exact ⟨e, h.toExecutes, .of_resolve he⟩
  | error e =>
      have hsucceeds := h.succeeds
      rw [step_eq_execute h.toExecutes] at hsucceeds
      simp only [execute, h.decoded, he] at hsucceeds
      cases hsucceeds

theorem Performs.completes {E : Environment α τ} {m : Machine α τ} {i : Instruction}
    {op : Opcode} {u : Update} (hp : m.Performs i op (.update u)) : m.Completes E i op := by
  have heffect : m.advance.effect i op = .ok (.update u) := hp.resolves.resolve
  refine ⟨hp.toExecutes, ?_⟩
  rw [step_eq_execute hp.toExecutes]
  simp only [execute, hp.decoded, heffect, perform]

/-- No change of the core adds or removes a register. -/
@[simp] theorem count_apply (c : Core) (u : Update) :
    (c.apply u).registers.count = c.registers.count := by
  cases u <;> simp [Core.apply]

@[simp] theorem count_receive (c : Core) (target : Option Nat) (reply : Option Value) :
    (receive c target reply).registers.count = c.registers.count := by
  unfold receive
  split
  · exact count_apply _ _
  · rfl

section Kept

variable {E : Environment α τ} {m : Machine α τ} {o : Outcome α τ}

theorem Transition.program_eq (h : Transition E m o) : o.machine.program = m.program := by
  cases h <;> rfl

theorem Transition.config_eq (h : Transition E m o) : o.machine.config = m.config := by
  cases h <;> rfl

theorem Transition.count_eq (h : Transition E m o) :
    o.machine.core.registers.count = m.core.registers.count := by
  cases h with
  | updated => exact count_apply _ _
  | invoked => exact count_receive _ _ _
  | _ => rfl

/-- The world moves by at most one host call or one printed line. -/
theorem Transition.reaches (h : Transition E m o) :
    World.Reaches E m.world o.machine.world := by
  cases h with
  | printed | unprinted => exact .writeLine .refl _
  | invoked | uninvoked => exact .invoke .refl _ _
  | _ => exact .refl

end Kept

/-! ## Runs -/

def after (E : Environment α τ) (m : Machine α τ) : Nat → Machine α τ
  | 0 => m
  | n + 1 => ((m.after E n).step E).machine

@[simp] theorem after_zero (E : Environment α τ) (m : Machine α τ) : m.after E 0 = m := rfl

theorem after_succ (E : Environment α τ) (m : Machine α τ) (n : Nat) :
    m.after E (n + 1) = ((m.after E n).step E).machine := rfl

theorem after_step (E : Environment α τ) (m : Machine α τ) (n : Nat) :
    (m.step E).machine.after E n = m.after E (n + 1) := by
  induction n with
  | zero => rfl
  | succ n ih => rw [after_succ, ih, after_succ E m (n + 1)]

/-- What every step keeps holds after every number of steps. -/
theorem after_induction (E : Environment α τ) {P : Machine α τ → Prop} {m : Machine α τ}
    (hstart : P m) (hstep : ∀ s o, P s → Transition E s o → P o.machine) (n : Nat) :
    P (m.after E n) := by
  induction n with
  | zero => exact hstart
  | succ n ih => exact hstep _ _ ih (transition_step E _)

theorem program_after (E : Environment α τ) (m : Machine α τ) (n : Nat) :
    (m.after E n).program = m.program :=
  after_induction E (P := fun s => s.program = m.program) rfl
    (fun _ _ h ht => ht.program_eq.trans h) n

theorem config_after (E : Environment α τ) (m : Machine α τ) (n : Nat) :
    (m.after E n).config = m.config :=
  after_induction E (P := fun s => s.config = m.config) rfl
    (fun _ _ h ht => ht.config_eq.trans h) n

theorem count_after (E : Environment α τ) (m : Machine α τ) (n : Nat) :
    (m.after E n).core.registers.count = m.core.registers.count :=
  after_induction E (P := fun s => s.core.registers.count = m.core.registers.count) rfl
    (fun _ _ h ht => ht.count_eq.trans h) n

theorem reaches_after (E : Environment α τ) (m : Machine α τ) (n : Nat) :
    World.Reaches E m.world (m.after E n).world :=
  after_induction E (P := fun s => World.Reaches E m.world s.world) .refl
    (fun _ _ h ht => h.trans ht.reaches) n

end Machine

end RegisterMachine
