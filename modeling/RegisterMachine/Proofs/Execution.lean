import RegisterMachine.Proofs.Halting

/-!
# Running a given program

What a program does is shown backwards along its instructions. `Machine.Ends` says what the run of
a machine comes to, and there is one rule for each thing that the next instruction can do: change
the core, have a host call answered or refused, be refused itself, or exit. A block of
instructions that two programs share is `Program.CodeAt` a place of each of them.
-/

namespace RegisterMachine

variable {α τ : Type}

def Program.CodeAt (p : Program) (pc : Nat) (block : List Instruction) : Prop :=
  block <+: p.instructions.toList.drop pc

instance (p : Program) (pc : Nat) (block : List Instruction) : Decidable (p.CodeAt pc block) :=
  inferInstanceAs (Decidable (block <+: p.instructions.toList.drop pc))

theorem Program.CodeAt.fetch? {p : Program} {pc : Nat} {block : List Instruction}
    (h : p.CodeAt pc block) (j : Nat) {i : Instruction} (hi : block[j]? = some i) :
    p.fetch? (pc + j) = some i := by
  rcases h with ⟨rest, hrest⟩
  have hlt : j < block.length := (List.getElem?_eq_some_iff.mp hi).1
  rw [Program.fetch?, ← Array.getElem?_toList, ← List.getElem?_drop, ← hrest,
    List.getElem?_append_left hlt, hi]

namespace Core

variable {c : Core} {i : Instruction} {maxDepth : Option Nat} {hosts : Nat}

theorem resolve_add_error {a b : Int64} {e : Error} (ha : c.Reads i.arg1 (.number a))
    (hb : c.Reads i.arg2 (.number b)) (he : sum a b = .error e) :
    c.resolve maxDepth hosts i .add = .error e := by
  have hnumbers := (numbers_eq_ok_iff c i .add a b).mpr ⟨ha, hb⟩
  simp only [resolve, hnumbers, bind, Except.bind, he]

theorem resolve_lessThanEquals_error {a : Int64} {v : Value} (ha : c.Reads i.arg1 (.number a))
    (hb : c.Reads i.arg2 v) (hv : v.number? = none) :
    c.resolve maxDepth hosts i .lessThanEquals =
      .error (.typeMismatch .lessThanEquals .numbers .number v.kind) := by
  rcases ha with ⟨lhs, hlhs, ha⟩
  rcases hb with ⟨rhs, hrhs, hb⟩
  have hlhs := (Instruction.arg1Index_eq_ok_iff i .lessThanEquals lhs).mpr hlhs
  have hrhs := (Instruction.arg2Index_eq_ok_iff i .lessThanEquals rhs).mpr hrhs
  simp only [resolve, numbers, hlhs, hrhs, lift_ok, bind, Except.bind, Registers.numbers, ha, hb]
  cases v with
  | number n => cases hv
  | _ => rfl

theorem toInt_of_sum_eq_ok {a b c : Int64} (h : sum a b = .ok c) :
    c.toInt = a.toInt + b.toInt := by
  unfold sum Text.toInt64? at h
  split at h
  · next n hn =>
      cases h
      split at hn
      · next hfits =>
          cases hn
          exact Int64.toInt_ofInt_of_le hfits.1 (Int.lt_add_one_of_le hfits.2)
      · cases hn
  · cases h

end Core

namespace Machine

theorem Executes.of_opcode {m : Machine α τ} {i : Instruction} {op : Opcode}
    (hs : m.status = .running) (hlimit : m.config.maxSteps = none) (hc : m.current? = some i)
    (ho : i.opcode = op.mnemonic) : m.Executes i op := by
  refine ⟨hs, hc, ?_, (Instruction.decode_eq_ok_iff i op).mpr ho⟩
  rw [spentBudget?, hlimit]
  rfl

/-- A run of the machine comes to a result, whatever the number of its steps, and leaves a world
behind. Unless it fails, every call has returned and the data stack is empty. -/
def Ends (E : Environment α τ) (m : Machine α τ) (result : Except Error Halt)
    (w : World α τ) : Prop :=
  ∃ r t, m.Returns E r t ∧ r.map Report.halt = result ∧ t.world = w ∧
    ∀ reason, result = .ok reason →
      t.core.calls.depth = 0 ∧ t.core.fp = 0 ∧ t.core.stack.size = 0

namespace Ends

variable {E : Environment α τ} {m : Machine α τ} {i : Instruction} {op : Opcode}
  {result : Except Error Halt} {w : World α τ} {e : Error} {host : Nat} {args : List Value}
  {target : Option Nat}

theorem of_step (hs : m.status = .running) (ho : (m.step E).result = .ok ())
    (h : (m.step E).machine.Ends E result w) : m.Ends E result w := by
  rcases h with ⟨r, t, hreturns, hrest⟩
  exact ⟨r, t, returns_of_ok hs ho hreturns, hrest⟩

theorem of_error (he : (m.step E).result = .error e) (hw : (m.step E).machine.world = w) :
    m.Ends E (.error e) w :=
  ⟨_, _, returns_of_error (running_of_error he) he, rfl, hw, nofun⟩

theorem of_update {u : Update} (hp : m.Performs i op (.update u))
    (h : Ends E { m.advance with core := m.advance.core.apply u } result w) :
    m.Ends E result w := by
  refine of_step hp.running hp.completes.succeeds ?_
  rwa [step_of_update hp]

theorem of_invoke {reply : Option Value} {w' : World α τ}
    (hp : m.Performs i op (.invoke host args target))
    (hr : (m.world.invoke E host args).result = .ok reply)
    (hw : (m.world.invoke E host args).world = w')
    (h : Ends E { m.advance with core := receive m.advance.core target reply, world := w' }
      result w) : m.Ends E result w := by
  have hstep := step_of_invoke hp hr
  refine of_step hp.running (congrArg Outcome.result hstep) ?_
  rw [hstep, hw]
  exact h

theorem of_invoke_error (hp : m.Performs i op (.invoke host args target))
    (hr : (m.world.invoke E host args).result = .error e)
    (hw : (m.world.invoke E host args).world = w) : m.Ends E (.error e) w := by
  have hstep := step_of_invoke_error hp hr
  refine of_error (congrArg Outcome.result hstep) ?_
  rw [hstep]
  exact hw

theorem of_refused (hx : m.Executes i op) (he : m.advance.effect i op = .error e) :
    m.Ends E (.error e) m.world := by
  have hstep := step_of_refused (E := E) hx he
  refine of_error (congrArg Outcome.result hstep) ?_
  rw [hstep]
  rfl

theorem of_exit (hx : m.Executes i .exit) (hdepth : m.core.calls.depth = 0)
    (hfp : m.core.fp = 0) (hsize : m.core.stack.size = 0) : m.Ends E (.ok .exit) m.world := by
  have hstep := step_of_exit (E := E) hx
  refine of_step hx.running (congrArg Outcome.result hstep) ?_
  rw [hstep]
  exact ⟨_, _, returns_of_halted rfl, rfl, rfl, fun _ _ => ⟨hdepth, hfp, hsize⟩⟩

end Ends

end Machine

end RegisterMachine
