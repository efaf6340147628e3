import RegisterMachine.Host.Standard
import RegisterMachine.Proofs.Stacks
import RegisterMachine.Proofs.Step

/-!
# What a failing step leaves behind

A step that fails leaves the registers, both stacks and the frame pointer as they
were, whatever the state of the machine, and stops it. It has been counted, unless
it was the budget that was spent. The world outside has been asked at most once:
by a print that found its register (`Machine.Prints`), or by a host call that
found its handle, its arguments and its target (`Machine.Calls`).

Nothing puts the machine back: it is the handler of each operation that has changed
nothing when it fails (`Handler.execute_error`), also where it goes on to operations
that could fail after a change. No handler cuts the stack at a height that it does
not have, so that an invalid frame can only be what the world has answered.
-/

namespace RegisterMachine

variable {α τ : Type}

namespace Core

/-! ## Invalid frames -/

/-- A computation that never fails with an invalid frame. Sequences of such computations are such,
which takes it from the look-ups to `Core.resolve`. -/
def FrameSafe {β : Type} (x : Except Error β) : Prop :=
  ∀ size length, x ≠ .error (.invalidFrame size length)

theorem FrameSafe.bind {β γ : Type} {x : Except Error β} {f : β → Except Error γ}
    (hx : FrameSafe x) (hf : ∀ b, FrameSafe (f b)) : FrameSafe (x >>= f) := by
  intro size length h
  rw [bind_eq_error_iff] at h
  obtain h | ⟨b, -, h⟩ := h
  · exact hx size length h
  · exact hf b size length h

theorem frameSafe_ok {β : Type} (b : β) : FrameSafe (.ok b) := by
  intro size length h
  cases h

theorem frameSafe_lift {β : Type} (x : Except InstructionError β) : FrameSafe (lift x) := by
  intro size length h
  cases x <;> cases h

theorem frameSafe_get (r : Registers) (index : Nat) : FrameSafe (r.get index) := by
  intro size length h
  unfold Registers.get at h
  split at h <;> cases h

theorem frameSafe_check (r : Registers) (index : Nat) : FrameSafe (r.check index) := by
  intro size length h
  unfold Registers.check at h
  split at h <;> cases h

theorem frameSafe_frameTop (c : Core) : FrameSafe c.frameTop := by
  intro size length h
  unfold frameTop DataStack.top at h
  split at h
  · cases h
  · split at h <;> cases h

theorem frameSafe_callsTop (c : CallStack) : FrameSafe c.top := by
  intro size length h
  unfold CallStack.top at h
  split at h <;> cases h

theorem frameSafe_sum (a b : Int64) : FrameSafe (sum a b) := by
  intro size length h
  unfold sum at h
  split at h <;> cases h

theorem frameSafe_arg1 (c : Core) (i : Instruction) (op : Opcode) :
    FrameSafe (c.arg1 i op) :=
  (frameSafe_lift _).bind fun _ => frameSafe_get _ _

theorem frameSafe_arg2 (c : Core) (i : Instruction) (op : Opcode) :
    FrameSafe (c.arg2 i op) :=
  (frameSafe_lift _).bind fun _ => frameSafe_get _ _

theorem frameSafe_target (c : Core) (i : Instruction) (op : Opcode) :
    FrameSafe (c.target i op) :=
  (frameSafe_lift _).bind fun _ => (frameSafe_check _ _).bind fun _ => frameSafe_ok _

theorem frameSafe_result (c : Core) (i : Instruction) (op : Opcode) (v : Value) :
    FrameSafe (c.result i op v) :=
  (frameSafe_target c i op).bind fun _ => frameSafe_ok _

theorem frameSafe_numbers (c : Core) (i : Instruction) (op : Opcode) :
    FrameSafe (c.numbers i op) := by
  refine (frameSafe_lift _).bind fun w => (frameSafe_lift _).bind fun w' => ?_
  refine (frameSafe_get _ _).bind fun a => (frameSafe_get _ _).bind fun b => ?_
  intro size length h
  split at h <;> cases h

theorem frameSafe_gather (c : Core) (ws : List UInt64) : FrameSafe (c.gather ws) := by
  induction ws with
  | nil => exact frameSafe_ok _
  | cons w ws ih =>
      exact (frameSafe_get _ _).bind fun v => ih.bind fun vs => frameSafe_ok _

theorem frameSafe_callFunc (c : Core) (maxDepth : Option Nat) (i : Instruction)
    (op : Opcode) : FrameSafe (c.callFunc maxDepth i op) := by
  refine (frameSafe_lift _).bind fun w => (frameSafe_get _ _).bind fun v => ?_
  intro size length h
  split at h
  · split at h
    · cases h
    · split at h <;> cases h
  · cases h

theorem frameSafe_callMethod (c : Core) (i : Instruction) (op : Opcode) :
    FrameSafe (c.callMethod i op) := by
  refine (frameSafe_lift _).bind fun w => (frameSafe_get _ _).bind fun v => ?_
  cases v with
  | host index =>
      refine (frameSafe_gather c _).bind fun args => ?_
      cases ht : i.target with
      | none => exact frameSafe_ok _
      | some t => exact (frameSafe_check _ _).bind fun _ => frameSafe_ok _
  | number | boolean | text | address =>
      intro size length h
      cases h

/-- No instruction is refused for an invalid frame: the stack is never cut there. -/
theorem frameSafe_resolve (c : Core) (maxDepth : Option Nat) (hosts : Nat)
    (i : Instruction) (op : Opcode) : FrameSafe (c.resolve maxDepth hosts i op) := by
  cases op with
  | store => exact (frameSafe_lift _).bind fun o => frameSafe_result c i _ _
  | set => exact (frameSafe_arg1 c i _).bind fun v => frameSafe_result c i _ v
  | add =>
      exact (frameSafe_numbers c i _).bind fun ab =>
        (frameSafe_sum _ _).bind fun n => frameSafe_result c i _ _
  | equals =>
      refine (frameSafe_arg1 c i _).bind fun a => (frameSafe_arg2 c i _).bind fun b => ?_
      cases a.equals? b with
      | some equal => exact frameSafe_result c i _ _
      | none =>
          intro size length h
          cases h
  | lessThan | lessThanEquals =>
      exact (frameSafe_numbers c i _).bind fun ab => frameSafe_result c i _ _
  | push | print => exact (frameSafe_arg1 c i _).bind fun v => frameSafe_ok _
  | pop =>
      exact (frameSafe_target c i _).bind fun t =>
        (frameSafe_frameTop c).bind fun v => frameSafe_ok _
  | jump => exact (frameSafe_lift _).bind fun t => frameSafe_ok _
  | jumpIfTrue | jumpIfFalse =>
      exact (frameSafe_lift _).bind fun t =>
        (frameSafe_arg1 c i _).bind fun v => frameSafe_ok _
  | callFunc => exact frameSafe_callFunc c maxDepth i _
  | ret =>
      exact (frameSafe_callsTop _).bind fun f =>
        (frameSafe_frameTop c).bind fun v => frameSafe_ok _
  | loadGlobal =>
      refine (frameSafe_lift _).bind fun w => ?_
      split
      · exact frameSafe_result c i _ _
      · intro size length h
        cases h
  | callMethod => exact frameSafe_callMethod c i _
  | exit => exact frameSafe_ok _

end Core

def Event.isHostCall : Event → Bool
  | .hostCalled .. => true
  | _ => false

namespace Machine

/-! ## What the world is asked -/

/-- The next instruction is a print whose operand names a register, so that there is a line to print
and only the sink can refuse it. -/
structure Prints (m : Machine α τ) (i : Instruction) (v : Value) : Prop
    extends Executes m i .print where
  reads : m.core.Reads i.arg1 v

/-- The next instruction is a host call: its operand names a register with a handle
inside the table, and its arguments and its target name registers. -/
structure Calls (m : Machine α τ) (i : Instruction) (host : UInt64) : Prop
    extends Executes m i .callMethod where
  reads : m.core.Reads i.arg1 (.host host)
  inside : host.toNat < m.world.hosts.size
  args : ∀ a ∈ i.args, a.toNat < m.core.registers.count
  target : ∀ t ∈ i.target, t.toNat < m.core.registers.count

/-- What a machine keeps when its next step fails: all that its instructions work on. The
instruction has been counted, unless there was no budget for it. -/
structure Keeps (m m' : Machine α τ) : Prop where
  registers : m'.core.registers = m.core.registers
  stack : m'.core.stack = m.core.stack
  calls : m'.core.calls = m.core.calls
  fp : m'.core.fp = m.core.fp
  program : m'.program = m.program
  config : m'.config = m.config
  status : m'.status = .halted .fault
  spent : ∀ limit ∈ m.config.maxSteps, limit ≤ m.steps →
    m'.core.pc = m.core.pc ∧ m'.steps = m.steps
  counted : (∀ limit ∈ m.config.maxSteps, m.steps < limit) →
    m'.core.pc = m.core.pc + 1 ∧ m'.steps = m.steps + 1

theorem spentBudget?_eq_none_iff (m : Machine α τ) :
    m.spentBudget? = none ↔ ∀ limit ∈ m.config.maxSteps, m.steps < limit :=
  Core.filter_le_eq_none_iff _ _

theorem spentBudget?_eq_some {m : Machine α τ} {limit : Nat} (h : m.spentBudget? = some limit) :
    limit ∈ m.config.maxSteps ∧ limit ≤ m.steps := by
  simpa [spentBudget?, Option.filter_eq_some_iff] using h

theorem gather_advance (m : Machine α τ) (ws : List UInt64) :
    m.advance.core.gather ws = m.core.gather ws := by
  induction ws with
  | nil => rfl
  | cons w ws ih =>
      have hregisters : m.advance.core.registers = m.core.registers := rfl
      rw [Core.gather, Core.gather, ih, hregisters]

theorem Prints.performs {m : Machine α τ} {i : Instruction} {v : Value} (h : m.Prints i v) :
    m.Performs i .print (.print v.display) :=
  ⟨h.toExecutes, .print h.reads⟩

theorem Calls.performs {m : Machine α τ} {i : Instruction} {host : UInt64}
    (h : m.Calls i host) : ∃ args, m.core.gather i.args = .ok args ∧
      m.Performs i .callMethod (.invoke host.toNat args (i.target.map UInt64.toNat)) := by
  obtain ⟨args, hargs⟩ := (Core.exists_gather_eq_ok_iff m.core i.args).mpr h.args
  have hadvance : m.advance.core.gather i.args = .ok args := by
    rw [gather_advance, hargs]
  exact ⟨args, hargs, h.toExecutes, .callMethod h.reads hadvance h.target⟩

theorem Performs.of_print {m : Machine α τ} {i : Instruction} {op : Opcode} {line : String}
    (hp : m.Performs i op (.print line)) :
    ∃ v, op = .print ∧ line = v.display ∧ m.core.Reads i.arg1 v := by
  cases hp.resolves with
  | print hv => exact ⟨_, rfl, rfl, hv⟩

/-- Only a host call resolves to one, and its operands are in order. -/
theorem Performs.of_invoke {m : Machine α τ} {i : Instruction} {op : Opcode} {host : Nat}
    {args : List Value} {target : Option Nat} (hp : m.Performs i op (.invoke host args target)) :
    ∃ w, op = .callMethod ∧ host = w.toNat ∧ (w.toNat < m.world.hosts.size → m.Calls i w) := by
  have hx := hp.toExecutes
  cases hp.resolves with
  | callMethod hw hargs htarget =>
      refine ⟨_, rfl, rfl, ?_⟩
      intro hlt
      have hrange := (Core.exists_gather_eq_ok_iff _ _).mp ⟨_, hargs⟩
      exact ⟨hx, hw, hlt, hrange, htarget⟩

/-! ## Failing steps -/

section Failing

variable {E : Environment α τ} {m : Machine α τ} {o : Outcome α τ} {e : Error}

/-- A step that fails keeps everything but the count, and stops the machine. -/
theorem keeps_of_error (he : (m.step E).result = .error e) : m.Keeps (m.step E).machine := by
  unfold step at he ⊢
  split at he
  · cases he
  · split at he
    · cases he
    · next i hc =>
        cases hx : (Handler.execute E i).run ⟨m, []⟩ with
        | ok _ s =>
            rw [hx] at he
            cases he
        | error e' s =>
            simp only [finish, fail]
            rcases Handler.execute_error hx with ⟨hspent, hs⟩ | ⟨hb, hs⟩
            · rw [hs]
              refine ⟨rfl, rfl, rfl, rfl, rfl, rfl, rfl, fun _ _ _ => ⟨rfl, rfl⟩, ?_⟩
              intro hleft
              rw [← spentBudget?_eq_none_iff] at hleft
              rw [hleft] at hspent
              cases hspent
            · rw [hs]
              refine ⟨rfl, rfl, rfl, rfl, rfl, rfl, rfl, ?_, fun _ => ⟨rfl, rfl⟩⟩
              intro limit hmem hle
              have hlt := (spentBudget?_eq_none_iff m).mp hb limit hmem
              omega

/-- A print that fails has made one attempt at the sink, which failed. -/
theorem error_of_prints {i : Instruction} {v : Value} (h : m.Prints i v)
    (he : (m.step E).result = .error e) :
    (E.writeLine v.display m.world.sink).1 = .error e ∧
      (m.step E).machine.world = ⟨m.world.hosts, (E.writeLine v.display m.world.sink).2⟩ ∧
      (m.step E).events.countP Event.isHostCall = 0 := by
  have heffect : m.advance.effect i .print = .ok (.print v.display) :=
    h.performs.resolves.resolve
  have hworld : m.advance.world = m.world := rfl
  rw [step_eq_execute h.toExecutes] at he ⊢
  simp only [execute, h.decoded, heffect, perform, hworld, World.writeLine] at he ⊢
  cases hw : (E.writeLine v.display m.world.sink).1 with
  | ok _ =>
      rw [hw] at he
      cases he
  | error e' =>
      rw [hw] at he
      cases he
      exact ⟨rfl, rfl, rfl⟩

/-- A host call that fails has called its host function once, which failed. -/
theorem error_of_calls {i : Instruction} {host : UInt64} (h : m.Calls i host)
    (he : (m.step E).result = .error e) : ∃ f args,
      m.world.hosts.functions[host.toNat]? = some f ∧ m.core.gather i.args = .ok args ∧
      (E.call args f.memory m.world.sink).1 = .error e ∧
      (m.step E).machine.world =
        ⟨m.world.hosts.remember host.toNat (E.call args f.memory m.world.sink).2.1,
          (E.call args f.memory m.world.sink).2.2⟩ ∧
      (m.step E).events.countP Event.isHostCall = 1 := by
  obtain ⟨args, hargs, hp⟩ := h.performs
  obtain ⟨f, hf⟩ := HostTable.exists_function h.inside
  refine ⟨f, args, hf, hargs, ?_⟩
  have heffect : m.advance.effect i .callMethod = .ok (.invoke host.toNat args _) :=
    hp.resolves.resolve
  have hworld : m.advance.world = m.world := rfl
  rw [step_eq_execute h.toExecutes] at he ⊢
  simp only [execute, h.decoded, heffect, perform, hworld, World.invoke, hf] at he ⊢
  cases hw : (E.call args f.memory m.world.sink).1 with
  | ok reply =>
      simp only [hw] at he
      cases he
  | error e' =>
      simp only [hw] at he
      cases he
      exact ⟨rfl, rfl, rfl⟩

/-- A failing step that is neither of the two has asked the world for nothing. -/
theorem Transition.world_of_silent (ht : Transition E m o) (he : o.result = .error e)
    (hprint : ¬∃ i v, m.Prints i v) (hcall : ¬∃ i host, m.Calls i host) :
    o.machine.world = m.world ∧ o.events.countP Event.isHostCall = 0 := by
  cases ht with
  | halted | ended | updated | printed | invoked | exited => cases he
  | spent | undecoded | refused => exact ⟨rfl, rfl⟩
  | unprinted hp hw =>
      obtain ⟨v, rfl, rfl, hv⟩ := hp.of_print
      exact absurd ⟨_, v, hp.toExecutes, hv⟩ hprint
  | uninvoked hp hw =>
      -- Only a handle beyond the table is left, and that calls nothing.
      obtain ⟨w, rfl, rfl, hcalls⟩ := hp.of_invoke
      have hout : ¬w.toNat < m.world.hosts.size := fun hlt => hcall ⟨_, w, hcalls hlt⟩
      have hnone : m.world.hosts.functions[w.toNat]? = none := by
        rw [Array.getElem?_eq_none_iff]
        exact Nat.not_lt.mp hout
      simp only [World.invoke, hnone]
      exact ⟨rfl, rfl⟩

/-- An invalid frame is an error of the world's. -/
theorem Transition.rejected_of_invalidFrame {size length : Nat} (ht : Transition E m o)
    (he : o.result = .error (.invalidFrame size length)) :
    m.Rejected E (.invalidFrame size length) := by
  cases ht with
  | halted | ended | updated | printed | invoked | exited | spent | undecoded => cases he
  | refused hx hr =>
      cases he
      exact absurd hr (Core.frameSafe_resolve _ _ _ _ _ size length)
  | unprinted hp hw =>
      cases he
      obtain ⟨v, rfl, rfl, -⟩ := hp.of_print
      exact .inr ⟨_, _, hp, hw⟩
  | uninvoked hp hw =>
      cases he
      obtain ⟨w, rfl, rfl, -⟩ := hp.of_invoke
      simp only [World.invoke] at hw
      split at hw
      · cases hw
      · next f hf => exact .inl ⟨_, _, _, _, f, hp, hf, hw⟩

end Failing

/-- A failing step, of a machine in any state, keeps all but the count and
stops the machine. It has asked the world for nothing, unless it is a print whose
operand is in order, which has tried the sink once, or a host call whose operands are
in order, which has called its host function once; and it fails with an invalid frame
only if that is what the world answered. -/
theorem step_error_keeps (E : Environment α τ) (m : Machine α τ) (e : Error)
    (he : (m.step E).result = .error e) :
    m.Keeps (m.step E).machine ∧
    (∀ i v, m.Prints i v →
      (E.writeLine v.display m.world.sink).1 = .error e ∧
      (m.step E).machine.world = ⟨m.world.hosts, (E.writeLine v.display m.world.sink).2⟩ ∧
      (m.step E).events.countP Event.isHostCall = 0) ∧
    (∀ i host, m.Calls i host → ∃ f args,
      m.world.hosts.functions[host.toNat]? = some f ∧ m.core.gather i.args = .ok args ∧
      (E.call args f.memory m.world.sink).1 = .error e ∧
      (m.step E).machine.world =
        ⟨m.world.hosts.remember host.toNat (E.call args f.memory m.world.sink).2.1,
          (E.call args f.memory m.world.sink).2.2⟩ ∧
      (m.step E).events.countP Event.isHostCall = 1) ∧
    ((¬∃ i v, m.Prints i v) → (¬∃ i host, m.Calls i host) →
      (m.step E).machine.world = m.world ∧
      (m.step E).events.countP Event.isHostCall = 0) ∧
    ∀ size length, e = .invalidFrame size length → m.Rejected E e := by
  have ht := transition_step E m
  refine ⟨keeps_of_error he, fun i v h => error_of_prints h he,
    fun i host h => error_of_calls h he, ht.world_of_silent he, ?_⟩
  intro size length hframe
  subst hframe
  exact ht.rejected_of_invalidFrame he

/-- A return in a frame that the stack does not reach up to. -/
def shortStack : Machine (Standard Script) Transcript where
  config := {}
  program := .ofList [.ret]
  core := {
    registers := .ofCount 1
    stack := ⟨#[.number 7]⟩
    calls := ⟨#[⟨9, 0⟩]⟩
    fp := 3 }
  world := ⟨Standard.table {}, {}⟩

/-- It fails for want of a value, and nothing is lost. -/
theorem step_error_keeps_shortStack :
    (shortStack.step Standard.scripted).result = .error .stackUnderflow ∧
    shortStack.Keeps (shortStack.step Standard.scripted).machine := by
  have herror : (shortStack.step Standard.scripted).result = .error .stackUnderflow := rfl
  exact ⟨herror, (step_error_keeps Standard.scripted shortStack _ herror).1⟩

end Machine

end RegisterMachine
