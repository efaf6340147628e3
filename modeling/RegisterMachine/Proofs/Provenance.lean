import RegisterMachine.Proofs.Step

/-!
# Where values come from

A value in a register or on the stack is a number or a truth value, or it was
brought in: as the literal of a store, as the handle of a host function, or as
the reply of a host call. `Supplies E p w P` says that a property `P` of values
holds of all that can be brought in, for a program in a world, and
`Machine.all_after` is the consequence: a property that holds of the values of a
machine to begin with holds of them after every number of steps.
-/

namespace RegisterMachine

variable {α τ : Type}

/-- A value that is written joins those that are there. -/
theorem Registers.mem_write {r : Registers} {index : Nat} {v x : Value}
    (h : x ∈ (r.write index v).slots) : x ∈ r.slots ∨ x = v :=
  Array.mem_or_eq_of_mem_setIfInBounds h

theorem DataStack.mem_of_top {s : DataStack} {v : Value} (h : s.top = .ok v) :
    v ∈ s.values := by
  unfold top at h
  split at h
  · next w hw =>
      cases h
      exact Array.mem_of_back? hw
  · cases h

theorem DataStack.mem_of_mem_rest {s : DataStack} {x : Value} (h : x ∈ s.rest.values) :
    x ∈ s.values := by
  have hdrop : x ∈ s.values.toList.dropLast := by
    rw [← Array.toList_pop]
    exact Array.mem_toList_iff.mpr h
  exact Array.mem_toList_iff.mp ((List.dropLast_sublist _).subset hdrop)

theorem DataStack.mem_of_mem_bottom {s : DataStack} {n : Nat} {x : Value}
    (h : x ∈ (s.bottom n).values) : x ∈ s.values := by
  simp only [bottom, Array.take_eq_extract] at h
  obtain ⟨k, hk, rfl⟩ := Array.mem_extract_iff_getElem.mp h
  exact Array.getElem_mem _

def Update.value? : Update → Option Value
  | .write _ v => some v
  | .push v => some v
  | .pop _ v => some v
  | .ret v _ => some v
  | .stay => none
  | .jump _ => none
  | .call .. => none

namespace Core

structure All (P : Value → Prop) (c : Core) : Prop where
  registers : ∀ v ∈ c.registers.slots, P v
  stack : ∀ v ∈ c.stack.values, P v

variable {P : Value → Prop} {c : Core}

theorem All.reads (h : c.All P) {o : Option Operand} {v : Value} (hv : c.Reads o v) :
    P v := by
  obtain ⟨index, -, hget⟩ := hv
  exact h.registers v (Registers.mem_of_get_eq_ok hget)

theorem All.top (h : c.All P) {v : Value} (hv : c.stack.top = .ok v) : P v :=
  h.stack v (DataStack.mem_of_top hv)

/-- A change that puts a value of the kind into the core keeps them all of the kind. -/
theorem All.apply (h : c.All P) {u : Update} (hu : ∀ v ∈ u.value?, P v) :
    (c.apply u).All P := by
  cases u with
  | stay => exact h
  | write register value =>
      refine ⟨?_, h.stack⟩
      intro v hv
      rcases Registers.mem_write hv with hmem | rfl
      · exact h.registers v hmem
      · exact hu v rfl
  | push value =>
      refine ⟨h.registers, ?_⟩
      intro v hv
      rcases Array.mem_push.mp hv with hmem | rfl
      · exact h.stack v hmem
      · exact hu v rfl
  | pop register value =>
      refine ⟨?_, fun v hv => h.stack v (DataStack.mem_of_mem_rest hv)⟩
      intro v hv
      rcases Registers.mem_write hv with hmem | rfl
      · exact h.registers v hmem
      · exact hu v rfl
  | jump target => exact ⟨h.registers, h.stack⟩
  | call address argCount => exact ⟨h.registers, h.stack⟩
  | ret value frame =>
      refine ⟨h.registers, ?_⟩
      intro v hv
      rcases Array.mem_push.mp hv with hmem | rfl
      · exact h.stack v (DataStack.mem_of_mem_bottom hmem)
      · exact hu v rfl

theorem All.receive (h : c.All P) (target : Option Nat) {reply : Option Value}
    (hr : ∀ v ∈ reply, P v) : (Machine.receive c target reply).All P := by
  unfold Machine.receive
  split
  · next v =>
      refine h.apply ?_
      intro x hx
      cases hx
      exact hr v rfl
  · exact h

end Core

/-- Whatever a program can bring into a machine in a world has the property: results of operations,
literals, handles, and the replies of host functions. -/
structure Supplies (E : Environment α τ) (p : Program) (w : World α τ)
    (P : Value → Prop) : Prop where
  number : ∀ n, P (.number n)
  boolean : ∀ b, P (.boolean b)
  literal : ∀ i ∈ p.instructions, i.decode = .ok .store → ∀ o ∈ i.arg1, P o.toValue
  handle : ∀ i ∈ p.instructions, i.decode = .ok .loadGlobal →
    ∀ index, i.arg1.bind Operand.index? = some index → index.toNat < w.hosts.size →
      P (.host index)
  reply : ∀ v, World.Reaches E w v → ∀ index args value,
    (v.invoke E index args).result = .ok (some value) → P value

/-- The value that an effect on the core brings in has the property, if the values
that are there have it. -/
theorem Supplies.value {E : Environment α τ} {p : Program} {w : World α τ}
    {P : Value → Prop} (hs : Supplies E p w P) {c : Core} (hc : c.All P)
    {maxDepth : Option Nat} {i : Instruction} {op : Opcode} {u : Update}
    (hi : i ∈ p.instructions) (hd : i.decode = .ok op)
    (hr : c.Resolves maxDepth w.hosts.size i op (.update u)) : ∀ v ∈ u.value?, P v := by
  intro v hv
  cases hr with
  | store ho _ =>
      cases hv
      exact hs.literal i hi hd _ ho
  | set hread _ =>
      cases hv
      exact hc.reads hread
  | add =>
      cases hv
      exact hs.number _
  | equals | lessThan | lessThanEquals =>
      cases hv
      exact hs.boolean _
  | push hread =>
      cases hv
      exact hc.reads hread
  | pop _ _ htop | ret _ _ htop =>
      cases hv
      exact hc.top htop
  | jump | callFunc => cases hv
  | jumpIfTrue | jumpIfFalse =>
      split at hv
      · cases hv
      · cases hv
  | loadGlobal hw hhost _ =>
      cases hv
      exact hs.handle i hi hd _ hw hhost

namespace Machine

variable {E : Environment α τ} {P : Value → Prop}

/-- What the machine can be given stays within the property along a step. -/
theorem Transition.supplies {m : Machine α τ} {o : Outcome α τ} (ht : Transition E m o)
    (hs : Supplies E m.program m.world P) :
    Supplies E o.machine.program o.machine.world P := by
  have hreach := ht.reaches
  rw [ht.program_eq]
  refine ⟨hs.number, hs.boolean, hs.literal, ?_, ?_⟩
  · intro i hi hd index hindex hlt
    rw [hreach.size_eq] at hlt
    exact hs.handle i hi hd index hindex hlt
  · intro v hv
    exact hs.reply v (hreach.trans hv)

/-- A step keeps all values of a machine within the property. -/
theorem Transition.all {m : Machine α τ} {o : Outcome α τ} (ht : Transition E m o)
    (hs : Supplies E m.program m.world P) (hc : m.core.All P) : o.machine.core.All P := by
  have hadvance : m.advance.core.All P := ⟨hc.registers, hc.stack⟩
  cases ht with
  | halted | ended | spent => exact hc
  | undecoded | refused | printed | unprinted | uninvoked | exited => exact hadvance
  | updated hp =>
      have hmem := Array.mem_of_getElem? hp.current
      exact hadvance.apply (hs.value hadvance hmem hp.decoded hp.resolves)
  | invoked hp hw =>
      refine hadvance.receive _ ?_
      intro v hv
      cases hv
      exact hs.reply _ .refl _ _ v hw

/-- What holds of the values of a machine and of all that it can be given holds of
its values after every number of steps. -/
theorem all_after {m : Machine α τ} (hs : Supplies E m.program m.world P)
    (hc : m.core.All P) (n : Nat) : (m.after E n).core.All P := by
  have h : Supplies E (m.after E n).program (m.after E n).world P ∧
      (m.after E n).core.All P := by
    refine after_induction E (P := fun s => Supplies E s.program s.world P ∧ s.core.All P)
      ⟨hs, hc⟩ ?_ n
    rintro s o ⟨hs, hc⟩ ht
    exact ⟨ht.supplies hs, ht.all hs hc⟩
  exact h.2

/-- A machine before its first step holds nothing but zeros. -/
theorem all_boot (config : Config) (p : Program) (w : World α τ) (hzero : P (.number 0)) :
    (boot config p w).core.All P := by
  refine ⟨?_, ?_⟩
  · intro v hv
    have hv' : v = .number 0 := Array.eq_of_mem_replicate hv
    exact hv' ▸ hzero
  · intro v hv
    cases hv
    contradiction

end Machine

end RegisterMachine
