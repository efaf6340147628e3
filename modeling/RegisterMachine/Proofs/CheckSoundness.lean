import RegisterMachine.Program.Check
import RegisterMachine.Program.Samples
import RegisterMachine.Host.Standard
import RegisterMachine.Proofs.Provenance

/-!
# Soundness of the structural check

A program that passes the structural check runs into no error that the check is
there to rule out, at no step of no run. Such an error is `Error.isStructural`;
what is left is `Error.isDynamic`, which depends on the values that a run has
computed, or comes from the world outside.

The check and the machine look at the operands in different orders, so the two
are not compared step by step. From a passed check the operands are known to be
there and in range; with that the resolver can only fail where it looks at values
(`Bounds.isDynamic_of_resolve`). The one structural error that depends on values
is the call of a host function that does not exist. It is excluded by the handles
of a machine, which stay inside the host table along every run.
-/

namespace RegisterMachine

variable {α τ : Type}

/-- The errors that the structural check is there to rule out: a fault of the instruction itself,
and an index outside the register file, the host table or the stack. -/
def Error.isStructural : Error → Bool
  | .instruction _ => true
  | .indexOutOfBounds .. => true
  | .unknownHostFunction _ => true
  | .invalidFrame .. => true
  | _ => false

/-- The errors that depend on the values of a run, which no look at the program alone can rule out.
-/
def Error.isDynamic : Error → Bool
  | .stackUnderflow => true
  | .callStackUnderflow => true
  | .callDepthExceeded _ => true
  | .invalidFunctionAddress _ => true
  | .notCallable _ => true
  | .typeMismatch .. => true
  | .arithmeticOverflow => true
  | .stepLimitExceeded _ => true
  | _ => false

theorem Error.isStructural_eq_false_of_isDynamic {e : Error} (h : e.isDynamic = true) :
    e.isStructural = false := by
  cases e <;> simp_all [isDynamic, isStructural]

/-! ## What a passed check says -/

namespace Bounds

theorem lift_eq_ok_iff {β : Type} (x : Except InstructionError β) (b : β) :
    lift x = .ok b ↔ x = .ok b :=
  mapError_eq_ok_iff _ x b

theorem register_eq_ok_iff (b : Bounds) (index : UInt64) :
    b.register index = .ok () ↔ index.toNat < b.registers := by
  unfold register
  split
  · next h => simp [h]
  · next h => simp [h]

theorem host_eq_ok_iff (b : Bounds) (index : UInt64) :
    b.host index = .ok () ↔ index.toNat < b.hosts := by
  unfold host
  split
  · next h => simp [h]
  · next h => simp [h]

theorem eachRegister_eq_ok_iff (b : Bounds) (ws : List UInt64) :
    b.eachRegister ws = .ok () ↔ ∀ w ∈ ws, w.toNat < b.registers := by
  induction ws with
  | nil => simp [eachRegister]
  | cons w ws ih => simp [eachRegister, bind_unit_eq_ok_iff, register_eq_ok_iff, ih]

variable {b : Bounds} {c : Core} {i : Instruction} {op : Opcode}

theorem exists_value {x : Except InstructionError UInt64}
    (h : (do let index ← lift x; b.register index) = .ok ())
    (hc : c.registers.count = b.registers) :
    ∃ w v, x = .ok w ∧ c.registers.get w.toNat = .ok v := by
  simp only [bind_eq_ok_iff, lift_eq_ok_iff, register_eq_ok_iff] at h
  obtain ⟨w, hw, hlt⟩ := h
  rw [← hc, ← Registers.exists_get_eq_ok_iff] at hlt
  obtain ⟨v, hv⟩ := hlt
  exact ⟨w, v, hw, hv⟩

theorem exists_arg1 (h : b.arg1 i op = .ok ()) (hc : c.registers.count = b.registers) :
    ∃ w v, i.arg1Index op = .ok w ∧ c.registers.get w.toNat = .ok v :=
  exists_value h hc

theorem exists_arg2 (h : b.arg2 i op = .ok ()) (hc : c.registers.count = b.registers) :
    ∃ w v, i.arg2Index op = .ok w ∧ c.registers.get w.toNat = .ok v :=
  exists_value h hc

theorem exists_target (h : b.target i op = .ok ()) (hc : c.registers.count = b.registers) :
    ∃ t, c.target i op = .ok t := by
  simp only [target, bind_eq_ok_iff, lift_eq_ok_iff, register_eq_ok_iff] at h
  obtain ⟨w, hw, hlt⟩ := h
  rw [← hc] at hlt
  refine ⟨w.toNat, ?_⟩
  rw [Core.target_eq_ok_iff]
  exact ⟨w, (Instruction.targetIndex_eq_ok_iff i op w).mp hw, rfl, hlt⟩

theorem isDynamic_of_frameTop {e : Error} (he : c.frameTop = .error e) :
    e.isDynamic = true := by
  unfold Core.frameTop at he
  split at he
  · cases he
    rfl
  · unfold DataStack.top at he
    split at he
    · cases he
    · cases he
      rfl

theorem isDynamic_of_sum {m n : Int64} {e : Error} (he : Core.sum m n = .error e) :
    e.isDynamic = true := by
  unfold Core.sum at he
  split at he
  · cases he
  · cases he
    rfl

/-- With two registers that are there, only their kinds can be wrong. -/
theorem isDynamic_of_numbers (h₁ : b.arg1 i op = .ok ()) (h₂ : b.arg2 i op = .ok ())
    (hc : c.registers.count = b.registers) {e : Error} (he : c.numbers i op = .error e) :
    e.isDynamic = true := by
  obtain ⟨w, v, hw, hv⟩ := exists_arg1 h₁ hc
  obtain ⟨w', v', hw', hv'⟩ := exists_arg2 h₂ hc
  simp only [Core.numbers, hw, hw', Core.lift_ok, bind, Except.bind,
    Registers.numbers, hv, hv'] at he
  split at he
  · cases he
  · cases he
    rfl

/-- A number for a target that passes is put there. -/
theorem not_error_of_target (h : b.target i op = .ok ())
    (hc : c.registers.count = b.registers) {v : Value} {e : Error} :
    c.result i op v ≠ .error e := by
  obtain ⟨t, ht⟩ := exists_target h hc
  simp [Core.result, ht, bind, Except.bind]

theorem isDynamic_of_callFunc (h : b.arg1 i op = .ok ())
    (hc : c.registers.count = b.registers) {maxDepth : Option Nat} {e : Error}
    (he : c.callFunc maxDepth i op = .error e) : e.isDynamic = true := by
  obtain ⟨w, v, hw, hv⟩ := exists_arg1 h hc
  simp only [Core.callFunc, hw, Core.lift_ok, bind, Except.bind, hv] at he
  split at he
  · split at he
    · cases he
      rfl
    · split at he
      · cases he
        rfl
      · cases he
  · cases he
    rfl

theorem isDynamic_of_ret {e : Error} (he : c.ret = .error e) : e.isDynamic = true := by
  simp only [Core.ret, bind_eq_error_iff] at he
  obtain he | ⟨frame, -, he | ⟨v, -, he⟩⟩ := he
  · unfold CallStack.top at he
    split at he
    · cases he
    · cases he
      rfl
  · exact isDynamic_of_frameTop he
  · cases he

theorem isDynamic_of_callMethod (h : b.operands i .callMethod = .ok ())
    (hc : c.registers.count = b.registers) {e : Error}
    (he : c.callMethod i .callMethod = .error e) : e.isDynamic = true := by
  simp only [operands, bind_unit_eq_ok_iff, eachRegister_eq_ok_iff] at h
  obtain ⟨harg, hargs, ht⟩ := h
  obtain ⟨w, v, hw, hv⟩ := exists_arg1 harg hc
  rw [← hc, ← Core.exists_gather_eq_ok_iff] at hargs
  obtain ⟨vs, hvs⟩ := hargs
  simp only [Core.callMethod, hw, Core.lift_ok, bind, Except.bind, hv, hvs] at he
  split at he
  · cases hi : i.target with
    | none => simp [hi] at he
    | some t =>
        simp only [hi, register_eq_ok_iff] at ht
        rw [← hc, ← Registers.check_eq_ok_iff] at ht
        simp [hi, ht] at he
  · cases he
    rfl

/-- On a core with as many registers as the check was made for, an instruction that
passes the check can only be refused for the values that it finds. -/
theorem isDynamic_of_resolve (h : b.operands i op = .ok ())
    (hc : c.registers.count = b.registers) {maxDepth : Option Nat} {e : Error}
    (he : c.resolve maxDepth b.hosts i op = .error e) : e.isDynamic = true := by
  cases op with
  | store =>
      simp only [operands, bind_eq_ok_iff, lift_eq_ok_iff] at h
      obtain ⟨o, ho, ht⟩ := h
      simp only [Core.resolve, ho, Core.lift_ok, bind, Except.bind] at he
      exact absurd he (not_error_of_target ht hc)
  | set =>
      simp only [operands, bind_unit_eq_ok_iff] at h
      obtain ⟨w, v, hw, hv⟩ := exists_arg1 h.1 hc
      simp only [Core.resolve, Core.arg1, hw, hv, Core.lift_ok, bind, Except.bind] at he
      exact absurd he (not_error_of_target h.2 hc)
  | add =>
      simp only [operands, bind_unit_eq_ok_iff] at h
      simp only [Core.resolve, bind_eq_error_iff] at he
      obtain he | ⟨ab, -, he | ⟨n, -, he⟩⟩ := he
      · exact isDynamic_of_numbers h.1 h.2.1 hc he
      · exact isDynamic_of_sum he
      · exact absurd he (not_error_of_target h.2.2 hc)
  | equals =>
      simp only [operands, bind_unit_eq_ok_iff] at h
      obtain ⟨w, v, hw, hv⟩ := exists_arg1 h.1 hc
      obtain ⟨w', v', hw', hv'⟩ := exists_arg2 h.2.1 hc
      simp only [Core.resolve, Core.arg1, Core.arg2, hw, hv, hw', hv', Core.lift_ok,
        bind, Except.bind] at he
      split at he
      · exact absurd he (not_error_of_target h.2.2 hc)
      · cases he
        rfl
  | lessThan | lessThanEquals =>
      simp only [operands, bind_unit_eq_ok_iff] at h
      simp only [Core.resolve, bind_eq_error_iff] at he
      obtain he | ⟨ab, -, he⟩ := he
      · exact isDynamic_of_numbers h.1 h.2.1 hc he
      · exact absurd he (not_error_of_target h.2.2 hc)
  | push | print =>
      obtain ⟨w, v, hw, hv⟩ := exists_arg1 h hc
      simp [Core.resolve, Core.arg1, hw, hv, Core.lift_ok, bind, Except.bind] at he
  | pop =>
      obtain ⟨t, ht⟩ := exists_target h hc
      simp only [Core.resolve, ht, bind_eq_error_iff] at he
      obtain he | ⟨t, -, he | ⟨v, -, he⟩⟩ := he
      · cases he
      · exact isDynamic_of_frameTop he
      · cases he
  | jump =>
      simp only [operands, bind_eq_ok_iff, lift_eq_ok_iff] at h
      obtain ⟨w, hw, -⟩ := h
      simp [Core.resolve, hw, Core.lift_ok, bind, Except.bind] at he
  | jumpIfTrue | jumpIfFalse =>
      simp only [operands, bind_eq_ok_iff, lift_eq_ok_iff] at h
      obtain ⟨⟨⟩, harg, t, ht, -⟩ := h
      obtain ⟨w, v, hw, hv⟩ := exists_arg1 harg hc
      simp [Core.resolve, Core.jumpIf, Core.arg1, hw, hv, ht, Core.lift_ok,
        bind, Except.bind] at he
  | callFunc => exact isDynamic_of_callFunc h hc he
  | ret => exact isDynamic_of_ret he
  | loadGlobal =>
      simp only [operands, bind_eq_ok_iff, lift_eq_ok_iff] at h
      obtain ⟨w, hw, ⟨⟩, hhost, ht⟩ := h
      rw [host_eq_ok_iff] at hhost
      simp only [Core.resolve, hw, Core.lift_ok, bind, Except.bind,
        hhost, if_true] at he
      exact absurd he (not_error_of_target ht hc)
  | callMethod => exact isDynamic_of_callMethod h hc he
  | exit => cases he

end Bounds

/-- A program passes the check exactly if all of its instructions do. -/
theorem Program.check_eq_nil_iff (p : Program) (registers hosts : Nat) :
    p.check registers hosts = [] ↔
      ∀ i ∈ p.instructions, (p.bounds registers hosts).instruction i = .ok () := by
  simp only [check, List.filterMap_eq_nil_iff, Option.map_eq_none_iff, Bounds.problem?]
  constructor
  · intro h i hi
    obtain ⟨k, hk, rfl⟩ := Array.getElem_of_mem hi
    have hmem : (p.instructions[k], k) ∈ p.instructions.toList.zipIdx := by
      rw [List.mk_mem_zipIdx_iff_getElem?]
      simp [hk]
    have hnone := h _ hmem
    split at hnone
    · next hok => exact hok
    · cases hnone
  · intro h ik hik
    have hmem : ik.1 ∈ p.instructions.toList := List.fst_mem_of_mem_zipIdx hik
    rw [h ik.1 (Array.mem_toList_iff.mp hmem)]

/-! ## The world outside -/

/-- A world that stays within what a machine relies on, whatever is asked of it: a
host function hands out no handle beyond the table, and neither a host function nor
the sink fails with an error of the machine's own structure. -/
structure World.Benign (E : Environment α τ) (w : World α τ) : Prop where
  handle : ∀ v, Reaches E w v → ∀ f ∈ v.hosts.functions, ∀ args index,
    (E.call args f.memory v.sink).1 = .ok (some (.host index)) → index.toNat < w.hosts.size
  call : ∀ v, Reaches E w v → ∀ f ∈ v.hosts.functions, ∀ args e,
    (E.call args f.memory v.sink).1 = .error e → e.isStructural = false
  line : ∀ v, Reaches E w v → ∀ line e,
    (E.writeLine line v.sink).1 = .error e → e.isStructural = false

/-- A handle that is inside a table of so many host functions, or no handle. -/
def Value.Within (hosts : Nat) (v : Value) : Prop :=
  ∀ index, v = .host index → index.toNat < hosts

theorem World.Benign.of_reaches {E : Environment α τ} {w v : World α τ} (hw : w.Benign E)
    (h : Reaches E w v) : v.Benign E := by
  refine ⟨?_, ?_, ?_⟩
  · intro u hu
    rw [h.size_eq]
    exact hw.handle u (h.trans hu)
  · intro u hu
    exact hw.call u (h.trans hu)
  · intro u hu
    exact hw.line u (h.trans hu)

/-- In a benign world a program brings in no handle beyond the table. -/
theorem World.Benign.supplies {E : Environment α τ} {w : World α τ} (hw : w.Benign E)
    (p : Program) : Supplies E p w (Value.Within w.hosts.size) := by
  refine ⟨?_, ?_, ?_, ?_, ?_⟩
  · intro n index h
    cases h
  · intro b index h
    cases h
  · intro i _ _ o _ index h
    cases o <;> cases h
  · intro i _ _ w' _ hlt index h
    cases h
    exact hlt
  · intro v hv index args value hvalue handle h
    unfold invoke at hvalue
    split at hvalue
    · cases hvalue
    · next f hf =>
        rw [h] at hvalue
        exact hw.handle v hv f (Array.mem_of_getElem? hf) args handle hvalue

/-! ## Runs -/

namespace Machine

/-- What a run of a checked program in a benign world keeps. The handles in the registers and on the
stack are part of it, since one may be used long after it was loaded. -/
structure Checked (E : Environment α τ) (m : Machine α τ) : Prop where
  passes : ∀ i ∈ m.program.instructions,
    (m.program.bounds m.core.registers.count m.world.hosts.size).instruction i = .ok ()
  benign : m.world.Benign E
  handles : m.core.All (Value.Within m.world.hosts.size)

theorem Transition.checked {E : Environment α τ} {m : Machine α τ} {o : Outcome α τ}
    (ht : Transition E m o) (hm : m.Checked E) : o.machine.Checked E := by
  have hsize := ht.reaches.size_eq
  refine ⟨?_, hm.benign.of_reaches ht.reaches, ?_⟩
  · rw [ht.program_eq, ht.count_eq, hsize]
    exact hm.passes
  · rw [hsize]
    exact ht.all (hm.benign.supplies m.program) hm.handles

/-- The machine before its first step, in the terms of the invariant. -/
theorem checked_boot {E : Environment α τ} {config : Config} {p : Program} {w : World α τ}
    (hp : p.check config.registerCount w.hosts.size = []) (hw : w.Benign E) :
    (boot config p w).Checked E := by
  have hcount : (boot config p w).core.registers.count = config.registerCount :=
    Registers.count_ofCount _
  refine ⟨?_, hw, all_boot config p w ?_⟩
  · rw [hcount]
    exact (Program.check_eq_nil_iff p _ _).mp hp
  · intro index h
    cases h

/-- A checked program decodes, and its operands are in order. -/
theorem Checked.operands {E : Environment α τ} {m : Machine α τ} (hm : m.Checked E)
    {i : Instruction} (hi : m.current? = some i) :
    ∃ op, i.decode = .ok op ∧
      (m.program.bounds m.core.registers.count m.world.hosts.size).operands i op = .ok () := by
  have h := hm.passes i (Array.mem_of_getElem? hi)
  simp only [Bounds.instruction, bind_eq_ok_iff, Bounds.lift_eq_ok_iff] at h
  exact h

/-- A host call of a checked program goes to a host function of the table. -/
theorem Checked.host_lt {E : Environment α τ} {m : Machine α τ} (hm : m.Checked E)
    {i : Instruction} {op : Opcode} {host : Nat} {args : List Value} {target : Option Nat}
    (hp : m.Performs i op (.invoke host args target)) :
    op = .callMethod ∧ host < m.world.hosts.size := by
  cases hp.resolves with
  | callMethod hread _ _ =>
      have hadvance : m.advance.core.All (Value.Within m.world.hosts.size) :=
        ⟨hm.handles.registers, hm.handles.stack⟩
      exact ⟨rfl, hadvance.reads hread _ rfl⟩

/-- A failing step of a checked program fails for its values or for the world. -/
theorem Checked.error {E : Environment α τ} {m : Machine α τ} (hm : m.Checked E)
    {o : Outcome α τ} (ht : Transition E m o) {e : Error} (he : o.result = .error e) :
    e.isStructural = false ∧ (e.isDynamic = true ∨ m.Rejected E e) := by
  have hdynamic : e.isDynamic = true →
      e.isStructural = false ∧ (e.isDynamic = true ∨ m.Rejected E e) :=
    fun h => ⟨Error.isStructural_eq_false_of_isDynamic h, .inl h⟩
  cases ht with
  | halted | ended | updated | printed | invoked | exited => cases he
  | spent =>
      cases he
      exact hdynamic rfl
  | undecoded hs hc hb hd =>
      obtain ⟨op, hop, -⟩ := hm.operands hc
      rw [hop] at hd
      cases hd
  | refused hx hr =>
      cases he
      obtain ⟨op, hop, hoperands⟩ := hm.operands hx.current
      have hsame := hop.symm.trans hx.decoded
      cases hsame
      exact hdynamic (Bounds.isDynamic_of_resolve (c := m.advance.core) hoperands rfl hr)
  | unprinted hp hw =>
      cases he
      refine ⟨hm.benign.line _ .refl _ _ hw, .inr (.inr ?_)⟩
      cases hp.resolves with
      | print => exact ⟨_, _, hp, hw⟩
  | uninvoked hp hw =>
      cases he
      obtain ⟨rfl, hlt⟩ := hm.host_lt hp
      obtain ⟨f, hget⟩ := HostTable.exists_function hlt
      simp only [World.invoke, hget] at hw
      refine ⟨hm.benign.call _ .refl _ (Array.mem_of_getElem? hget) _ _ hw, .inr (.inl ?_)⟩
      exact ⟨_, _, _, _, _, hp, hget, hw⟩

end Machine

/-! ## The console -/

/-- A reply that holds no handle and no error of the machine's own structure. -/
def Harmless : Reply → Prop
  | .ok (some v) => ∀ index, v ≠ .host index
  | .ok none => True
  | .error e => e.isStructural = false

theorem harmless_answer (input : Input) : Harmless input.answer.1 := by
  unfold Input.answer
  split
  · rfl
  · split
    · next line _ =>
        intro index
        simp only [parseInput]
        split
        · simp
        · simp
    · rfl

/-- The standard host functions are benign if what they are made of is. -/
theorem Standard.benign {ι : Type} {ask : List Value → ι → τ → Reply × ι × τ}
    {isConsole : Bool} {writeLine : String → τ → Except Error Unit × τ}
    (hask : ∀ args memory sink, Harmless (ask args memory sink).1)
    (hline : ∀ line sink e, (writeLine line sink).1 = .error e → e.isStructural = false)
    (w : World (Standard ι) τ) : w.Benign (environment ask isConsole writeLine) := by
  -- A printer answers with nothing, so only the sink can speak through it.
  have hcall : ∀ args memory sink,
      Harmless ((environment ask isConsole writeLine).call args memory sink).1 := by
    intro args memory sink
    cases memory with
    | input memory => exact hask args memory sink
    | printer =>
        cases hw : (writeLine (printedLine args) sink).1 with
        | ok _ => simp [environment, hw, Except.map, Harmless]
        | error e => simpa [environment, hw, Except.map, Harmless] using hline _ _ _ hw
  refine ⟨?_, ?_, ?_⟩
  · intro v _ f _ args index h
    have hf := hcall args f.memory v.sink
    rw [h] at hf
    exact absurd rfl (hf index)
  · intro v _ f _ args e h
    have hf := hcall args f.memory v.sink
    rw [h] at hf
    exact hf
  · intro v _ line e h
    exact hline line v.sink e h

theorem Standard.benign_console (w : World (Standard Console) Transcript) :
    w.Benign console := by
  refine benign ?_ ?_ w
  · intro args c t
    exact harmless_answer c.input
  · intro line t e h
    cases h

/-- A terminal can fail, but only with an error of its own. -/
theorem Standard.benign_terminal (w : World (Standard Input) Terminal) :
    w.Benign terminal := by
  refine benign ?_ ?_ w
  · intro args input t
    rcases t.call_reply args input with hreply | ⟨detail, hreply⟩
    · rw [hreply]
      exact harmless_answer input
    · rw [hreply]
      rfl
  · intro line t e h
    rcases t.write_result (line ++ "\n") with hw | ⟨detail, hw⟩
    · cases hw.symm.trans h
    · cases hw.symm.trans h
      rfl

/-! ## Soundness -/

namespace Machine

/-- A program that passes the structural check, on a machine with the registers and
the host functions that it was checked for, fails at no step of no run with an error
that the check is there to rule out: a failure is one of values, or the world's own.
The worlds with a console on a transcript or on a terminal are benign. -/
theorem check_sound (E : Environment α τ) (config : Config) (p : Program) (w : World α τ)
    (hp : p.check config.registerCount w.hosts.size = []) (hw : w.Benign E) :
    (∀ (n : Nat) (e : Error), (((boot config p w).after E n).step E).result = .error e →
      e.isStructural = false ∧
        (e.isDynamic = true ∨ ((boot config p w).after E n).Rejected E e)) ∧
    (∀ (c : Console) (t : Transcript),
      World.Benign Standard.console ⟨Standard.table c, t⟩) ∧
    (∀ (i : Input) (t : Terminal),
      World.Benign Standard.terminal ⟨Standard.table i, t⟩) := by
  refine ⟨?_, fun c t => Standard.benign_console _, fun i t => Standard.benign_terminal _⟩
  intro n e he
  have hchecked : ((boot config p w).after E n).Checked E :=
    after_induction E (checked_boot hp hw) (fun _ _ hs ht => ht.checked hs) n
  exact hchecked.error (transition_step E _) he

def waitingConsole : World (Standard Console) Transcript :=
  ⟨Standard.table { input := ⟨[120, 10]⟩ }, {}⟩

/-- The comparison in `Program.sign` fails on a text, which is no structural error. -/
theorem check_sound_sign :
    Program.sign.check 12 2 = [] ∧ waitingConsole.Benign Standard.console ∧
    (((boot {} Program.sign waitingConsole).after Standard.console 7).step
      Standard.console).result = .error (.typeMismatch .lessThan .numbers .text .number) ∧
    (Error.typeMismatch .lessThan .numbers .text .number).isStructural = false := by
  have hcheck : Program.sign.check 12 2 = [] := by decide
  have hbenign : waitingConsole.Benign Standard.console := Standard.benign_console _
  have herror : (((boot {} Program.sign waitingConsole).after Standard.console 7).step
      Standard.console).result = .error (.typeMismatch .lessThan .numbers .text .number) := rfl
  have hsound := check_sound Standard.console {} Program.sign waitingConsole hcheck hbenign
  exact ⟨hcheck, hbenign, herror, (hsound.1 7 _ herror).1⟩

end Machine

end RegisterMachine
