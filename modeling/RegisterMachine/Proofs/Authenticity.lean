import RegisterMachine.Program.Samples
import RegisterMachine.Proofs.CallStack
import RegisterMachine.Proofs.Fault
import RegisterMachine.Proofs.Provenance

/-!
# Handles and addresses are not made up

A program cannot compute a handle or a code address. Where the host functions reply with
plain data only (`World.RepliesData`), every handle in a register or on the stack is one
that an instruction of the program loads, and every address one that an instruction of the
program stores (`Value.Authentic`). This holds of programs that no check has looked at.

So a host call always finds its function in the table, and a call goes only where the
program says. A host function may still fail with any error that it likes, including the
one for a function that is not there, which is then its own.
-/

namespace RegisterMachine

variable {α τ : Type}

/-- A number, a truth value or a text: what a program can get from anywhere, in contrast to a handle
or an address. -/
def Value.isData : Value → Bool
  | .number _ => true
  | .boolean _ => true
  | .text _ => true
  | .host _ => false
  | .address _ => false

/-- The host functions reply with data or with nothing, if they do not fail, whatever is
asked of them and in whatever order. -/
def World.RepliesData (E : Environment α τ) (w : World α τ) : Prop :=
  ∀ v, Reaches E w v → ∀ f ∈ v.hosts.functions, ∀ args value,
    (E.call args f.memory v.sink).1 = .ok (some value) → value.isData = true

def Program.Loads (p : Program) (index : UInt64) : Prop :=
  ∃ i ∈ p.instructions, i.decode = .ok .loadGlobal ∧ i.arg1.bind Operand.index? = some index

def Program.Stores (p : Program) (target : UInt64) : Prop :=
  ∃ i ∈ p.instructions, i.decode = .ok .store ∧ i.arg1 = some (.address target)

/-- A value whose handle or address, if it is one, comes from the program, with a handle
inside the table. -/
structure Value.Authentic (p : Program) (hosts : Nat) (v : Value) : Prop where
  handle : ∀ index, v = .host index → index.toNat < hosts ∧ p.Loads index
  address : ∀ target, v = .address target → p.Stores target

theorem Value.authentic_of_isData {v : Value} (h : v.isData = true) (p : Program)
    (hosts : Nat) : v.Authentic p hosts := by
  refine ⟨?_, ?_⟩
  · rintro index rfl
    cases h
  · rintro target rfl
    cases h

/-- Where the host functions reply with data, all that a program can bring into a machine is
authentic. -/
theorem World.RepliesData.supplies {E : Environment α τ} {w : World α τ}
    (hw : w.RepliesData E) (p : Program) : Supplies E p w (Value.Authentic p w.hosts.size) := by
  refine ⟨?_, ?_, ?_, ?_, ?_⟩
  · intro n
    exact Value.authentic_of_isData rfl p _
  · intro b
    exact Value.authentic_of_isData rfl p _
  · intro i hi hd o ho
    cases o with
    | int n => exact Value.authentic_of_isData rfl p _
    | bool b => exact Value.authentic_of_isData rfl p _
    | text s => exact Value.authentic_of_isData rfl p _
    | address target =>
        refine ⟨?_, ?_⟩
        · intro index h
          cases h
        · intro target' h
          cases h
          exact ⟨i, hi, hd, ho⟩
  · intro i hi hd index hindex hlt
    refine ⟨?_, ?_⟩
    · intro index' h
      cases h
      exact ⟨hlt, i, hi, hd, hindex⟩
    · intro target h
      cases h
  · intro v hv index args value hvalue
    unfold invoke at hvalue
    split at hvalue
    · cases hvalue
    · next f hf =>
        exact Value.authentic_of_isData
          (hw v hv f (Array.mem_of_getElem? hf) args value hvalue) p _

/-! ## The standard host functions -/

theorem isData_parseInput (line : String) : (parseInput line).isData = true := by
  simp only [parseInput]
  split
  · rfl
  · rfl

theorem isData_of_answer {input : Input} {value : Value}
    (h : input.answer.1 = .ok (some value)) : value.isData = true := by
  unfold Input.answer at h
  split at h
  · cases h
  · split at h
    · cases h
      exact isData_parseInput _
    · cases h

/-- The standard host functions reply with data if what answers does: the one that prints
replies with nothing. -/
theorem Standard.repliesData {ι : Type} {ask : List Value → ι → τ → Reply × ι × τ}
    {isConsole : Bool} {writeLine : String → τ → Except Error Unit × τ}
    (hask : ∀ args memory sink value, (ask args memory sink).1 = .ok (some value) →
      value.isData = true)
    (w : World (Standard ι) τ) : w.RepliesData (environment ask isConsole writeLine) := by
  intro v _ f _ args value h
  cases hf : f.memory with
  | input memory =>
      rw [hf] at h
      exact hask args memory v.sink value h
  | printer =>
      rw [hf] at h
      cases hw : (writeLine (printedLine args) v.sink).1 with
      | ok _ => simp [environment, hw, Except.map] at h
      | error e => simp [environment, hw, Except.map] at h

theorem Standard.repliesData_console (w : World (Standard Console) Transcript) :
    w.RepliesData console :=
  repliesData (fun _ _ _ _ h => isData_of_answer h) w

theorem Standard.repliesData_terminal (w : World (Standard Input) Terminal) :
    w.RepliesData terminal := by
  refine repliesData ?_ w
  intro args input t value h
  rcases t.call_reply args input with hreply | ⟨detail, hreply⟩
  · exact isData_of_answer (hreply.symm.trans h)
  · cases hreply.symm.trans h

/-! ## Runs -/

namespace Machine

theorem authentic_after {E : Environment α τ} {w : World α τ} (hw : w.RepliesData E)
    (config : Config) (p : Program) (n : Nat) :
    ((boot config p w).after E n).core.All (Value.Authentic p w.hosts.size) :=
  all_after (hw.supplies p)
    (all_boot config p w (Value.authentic_of_isData rfl p w.hosts.size)) n

section Step

variable {E : Environment α τ} {m : Machine α τ} {i : Instruction} {p : Program}

/-- A host call that fails for want of the function has found one, which said so. -/
theorem unknownHostFunction_of_callMethod
    (hauthentic : m.core.All (Value.Authentic p m.world.hosts.size))
    (hx : m.Executes i .callMethod) {index : Nat}
    (he : (m.step E).result = .error (.unknownHostFunction index)) :
    ∃ f ∈ m.world.hosts.functions, ∃ args,
      (E.call args f.memory m.world.sink).1 = .error (.unknownHostFunction index) := by
  cases heffect : m.advance.effect i .callMethod with
  | error e =>
      rw [step_eq_execute hx] at he
      simp only [execute, hx.decoded, heffect] at he
      cases he
      rcases Core.callMethod_eq_error heffect with ⟨_, h⟩ | ⟨_, h⟩ | ⟨_, h⟩
      · cases h
      · cases h
      · cases h
  | ok effect =>
      have hresolves := Core.Resolves.of_resolve heffect
      cases hresolves with
      | callMethod hread hargs htarget =>
          have hlt := ((hauthentic.reads hread).handle _ rfl).1
          have hrange := (Core.exists_gather_eq_ok_iff _ _).mp ⟨_, hargs⟩
          rcases error_of_calls ⟨hx, hread, hlt, hrange, htarget⟩ he with
            ⟨f, args, hf, -, hreply, -, -⟩
          exact ⟨f, Array.mem_of_getElem? hf, args, hreply⟩

/-- A call that succeeds goes to an address of the program. -/
theorem Completes.stores {hosts : Nat} (hauthentic : m.core.All (Value.Authentic p hosts))
    (h : m.Completes E i .callFunc) :
    ∃ target, p.Stores target ∧ (m.step E).machine.core.pc = target.toNat := by
  rcases h.call with ⟨address, hread, -, -, hp⟩
  refine ⟨address, (hauthentic.reads hread).address _ rfl, ?_⟩
  rw [step_of_update hp]
  rfl

end Step

/-- On every run of every program, where the host functions reply with data or with nothing,
every handle in a register or on the stack is inside the table and loaded by an instruction
of the program, and every address is stored by one. So a host call fails for want of the
function only if the function that it did call says so, hence never if none does, and a call
goes to an address that the program stores. The consoles reply with data. -/
theorem handles_and_addresses_authentic (E : Environment α τ) (config : Config) (p : Program)
    (w : World α τ) (hw : w.RepliesData E) (n : Nat) :
    ((boot config p w).after E n).core.All (Value.Authentic p w.hosts.size) ∧
    (∀ i index, ((boot config p w).after E n).Executes i .callMethod →
      (((boot config p w).after E n).step E).result = .error (.unknownHostFunction index) →
      ∃ f ∈ ((boot config p w).after E n).world.hosts.functions, ∃ args,
        (E.call args f.memory ((boot config p w).after E n).world.sink).1 =
          .error (.unknownHostFunction index)) ∧
    ((∀ v, World.Reaches E w v → ∀ f ∈ v.hosts.functions, ∀ args index,
        (E.call args f.memory v.sink).1 ≠ .error (.unknownHostFunction index)) →
      ∀ i index, ((boot config p w).after E n).Executes i .callMethod →
        (((boot config p w).after E n).step E).result ≠ .error (.unknownHostFunction index)) ∧
    (∀ i, ((boot config p w).after E n).Completes E i .callFunc → ∃ target, p.Stores target ∧
      (((boot config p w).after E n).step E).machine.core.pc = target.toNat) ∧
    (∀ (c : Console) (t : Transcript),
      World.RepliesData Standard.console ⟨Standard.table c, t⟩) ∧
    (∀ (i : Input) (t : Terminal),
      World.RepliesData Standard.terminal ⟨Standard.table i, t⟩) := by
  have hauthentic := authentic_after hw config p n
  have hreaches : World.Reaches E w ((boot config p w).after E n).world :=
    reaches_after E (boot config p w) n
  have hinside : ((boot config p w).after E n).core.All
      (Value.Authentic p ((boot config p w).after E n).world.hosts.size) := by
    rw [hreaches.size_eq]
    exact hauthentic
  refine ⟨hauthentic, fun i index hx he => unknownHostFunction_of_callMethod hinside hx he, ?_,
    fun i h => h.stores hauthentic, fun c t => Standard.repliesData_console _,
    fun i t => Standard.repliesData_terminal _⟩
  intro hnever i index hx he
  rcases unknownHostFunction_of_callMethod hinside hx he with ⟨f, hf, args, hreply⟩
  exact hnever _ hreaches f hf args index hreply

def answeredConsole : World (Standard Console) Transcript :=
  ⟨Standard.table { input := ⟨[49, 10]⟩ }, {}⟩

/-- The subroutine of `Program.fibonacciCall` is called where the program says. -/
theorem handles_and_addresses_authentic_fibonacciCall :
    answeredConsole.RepliesData Standard.console ∧
    ((boot {} Program.fibonacciCall answeredConsole).after Standard.console 13).Completes
      Standard.console (.callFunc 9 2) .callFunc ∧
    ((boot {} Program.fibonacciCall answeredConsole).after Standard.console 13).core.All
      (Value.Authentic Program.fibonacciCall 2) ∧
    ∃ target, Program.fibonacciCall.Stores target ∧
      (((boot {} Program.fibonacciCall answeredConsole).after Standard.console 13).step
        Standard.console).machine.core.pc = target.toNat := by
  have hdata : answeredConsole.RepliesData Standard.console := Standard.repliesData_console _
  have hcall : ((boot {} Program.fibonacciCall answeredConsole).after
      Standard.console 13).Completes Standard.console (.callFunc 9 2) .callFunc :=
    ⟨⟨rfl, rfl, rfl, rfl⟩, rfl⟩
  rcases handles_and_addresses_authentic Standard.console {} Program.fibonacciCall
    answeredConsole hdata 13 with ⟨hauthentic, -, -, hstores, -, -⟩
  exact ⟨hdata, hcall, hauthentic, hstores _ hcall⟩

end Machine

end RegisterMachine
