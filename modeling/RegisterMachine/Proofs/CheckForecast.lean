import RegisterMachine.Proofs.CheckCompleteness

/-!
# Errors that the check foretells

Some problems are worded like an error of the machine: a tag that names no operation, an operand
that is missing or no index, a host function that is not there. On a fresh machine, where every
register holds the same number and no value can be of the wrong kind, such a problem foretells
the error. `Foretells` says so of a computation of the check and one of the machine, and it goes
through the operands in their order as long as both sides take them in the same order.

They do, but for conditional jumps. The check looks at the register first and the machine at the
target, so of a jump that lacks both (`Instruction.Aimless`) the check names the one and the machine
the other. The main theorem says that this is the only instruction that is foretold wrongly, and the
barest one of them ends the module.
-/

namespace RegisterMachine

variable {α τ : Type}

/-! ## Wordings -/

/-- The error that is worded like a problem. A register out of range has another wording as an
error, and a jump out of the program is none. -/
def Problem.error? : Problem → Option Error
  | .instruction cause => some (.instruction cause)
  | .host index => some (.unknownHostFunction index)
  | .register .. => none
  | .jump .. => none

def Error.isForetold : Error → Bool
  | .instruction _ => true
  | .unknownHostFunction _ => true
  | _ => false

theorem Problem.message_eq {p : Problem} {e : Error} (h : p.error? = some e) :
    e.message = p.message := by
  cases p <;> cases h <;> rfl

theorem head?_append {s : String} {first : Char} (h : s.toList.head? = some first) (t : String) :
    (s ++ t).toList.head? = some first := by
  rw [String.toList_append, List.head?_append, h]
  rfl

theorem Opcode.head?_mnemonic (op : Opcode) :
    ∃ first, op.mnemonic.toList.head? = some first ∧ first ≠ 'r' ∧ first ≠ 'j' := by
  cases op <;> exact ⟨_, rfl, by decide, by decide⟩

theorem InstructionError.head?_message (cause : InstructionError) :
    ∃ first, cause.message.toList.head? = some first ∧ first ≠ 'r' ∧ first ≠ 'j' := by
  cases cause with
  | unknownOpcode tag => exact ⟨'u', head?_append rfl tag, by decide, by decide⟩
  | missingOperand op field =>
      obtain ⟨first, hfirst, hne⟩ := op.head?_mnemonic
      exact ⟨first, head?_append (head?_append (head?_append hfirst _) _) _, hne⟩
  | invalidOperand op field found =>
      obtain ⟨first, hfirst, hne⟩ := op.head?_mnemonic
      exact ⟨first, head?_append (head?_append (head?_append (head?_append hfirst _) _) _) _, hne⟩

/-- The wordings of two missing operands differ in the name of the operand. -/
theorem InstructionError.missing_ne (op : Opcode) :
    (missingOperand op .arg1).message ≠ (missingOperand op .target).message := by
  intro heq
  have hlist : (op.mnemonic ++ " is missing its `" ++ "arg1" ++ "` operand").toList =
      (op.mnemonic ++ " is missing its `" ++ "target" ++ "` operand").toList :=
    congrArg String.toList heq
  simp only [String.toList_append, List.append_assoc, List.append_cancel_left_eq] at hlist
  have hletter : some 'a' = some 't' := congrArg List.head? hlist
  exact absurd hletter (by decide)

theorem InstructionError.invalid_ne (op : Opcode) (found : Operand) :
    (invalidOperand op .arg1 found).message ≠ (missingOperand op .target).message := by
  intro heq
  have hlist :
      (op.mnemonic ++ " expects an index in `" ++ "arg1" ++ "`, got " ++ found.display).toList =
        (op.mnemonic ++ " is missing its `" ++ "target" ++ "` operand").toList :=
    congrArg String.toList heq
  simp only [String.toList_append, List.append_assoc, List.append_cancel_left_eq] at hlist
  have hletter : some 'e' = some 'i' := congrArg (·[1]?) hlist
  exact absurd hletter (by decide)

/-- An error that is foretold begins neither like the report of a register nor like that of a
jump. -/
theorem Error.head?_message {e : Error} (he : e.isForetold = true) :
    ∃ first, e.message.toList.head? = some first ∧ first ≠ 'r' ∧ first ≠ 'j' := by
  cases e with
  | instruction cause => exact cause.head?_message
  | unknownHostFunction index => exact ⟨'n', head?_append rfl _, by decide, by decide⟩
  | _ => cases he

theorem Problem.exists_error {p : Problem} {e : Error} (he : e.isForetold = true)
    (h : p.message = e.message) : ∃ e', p.error? = some e' := by
  obtain ⟨first, hfirst, hr, hj⟩ := Error.head?_message he
  rw [← h] at hfirst
  cases p with
  | instruction cause => exact ⟨_, rfl⟩
  | host index => exact ⟨_, rfl⟩
  | register index count =>
      have hregister : (Problem.register index count).message.toList.head? = some 'r' :=
        head?_append (head?_append (head?_append (head?_append rfl _) _) _) _
      exact absurd (Option.some.inj (hfirst.symm.trans hregister)) hr
  | jump target length =>
      have hjump : (Problem.jump target length).message.toList.head? = some 'j' :=
        head?_append (head?_append (head?_append (head?_append rfl _) _) _) _
      exact absurd (Option.some.inj (hfirst.symm.trans hjump)) hj

/-! ## Check and machine side by side -/

/-- A failure of the first computation that is worded like an error is that failure of the
second. -/
def Foretells {β γ : Type} (x : Except Problem β) (y : Except Error γ) : Prop :=
  ∀ p e, x = .error p → p.error? = some e → y = .error e

namespace Foretells

variable {β β' γ γ' : Type} {x : Except Problem β} {y : Except Error γ}

theorem bind {f : β → Except Problem β'} {g : γ → Except Error γ'} (hx : Foretells x y)
    (hf : ∀ a, x = .ok a → ∃ v, y = .ok v ∧ Foretells (f a) (g v)) :
    Foretells (x >>= f) (y >>= g) := by
  intro p e hp he
  rcases (bind_eq_error_iff _ _ _).mp hp with hp | ⟨a, ha, hp⟩
  · rw [hx p e hp he]
    rfl
  · obtain ⟨v, hv, hfg⟩ := hf a ha
    rw [hv]
    exact hfg p e hp he

/-- What comes later on the side of the machine makes no difference to a failure. -/
theorem bind_right (hx : Foretells x y) (g : γ → Except Error γ') : Foretells x (y >>= g) := by
  intro p e hp he
  rw [hx p e hp he]
  rfl

theorem lift (z : Except InstructionError β) : Foretells (Bounds.lift z) (Core.lift z) := by
  intro p e hp he
  obtain ⟨cause, rfl, rfl⟩ := (Bounds.lift_eq_error_iff z p).mp hp
  cases he
  rfl

theorem lift_bind (z : Except InstructionError β) {f : β → Except Problem β'}
    {g : β → Except Error γ'} (h : ∀ a, Foretells (f a) (g a)) :
    Foretells (Bounds.lift z >>= f) (Core.lift z >>= g) := by
  refine (lift z).bind fun a ha => ⟨a, ?_, h a⟩
  rw [Bounds.lift_eq_ok_iff] at ha
  exact (Core.lift_eq_ok_iff z a).mpr ha

theorem register (b : Bounds) (w : UInt64) (y : Except Error γ) : Foretells (b.register w) y := by
  intro p e hp he
  rw [((Bounds.register_eq_error_iff b w p).mp hp).2] at he
  cases he

theorem jump (b : Bounds) (w : UInt64) (y : Except Error γ) : Foretells (b.jump w) y := by
  intro p e hp he
  rw [((Bounds.jump_eq_error_iff b w p).mp hp).2] at he
  cases he

/-- Of an operand that names a register only the index is foretold. -/
theorem operand (b : Bounds) (z : Except InstructionError UInt64) :
    Foretells (Bounds.lift z >>= b.register) (Core.lift z) := by
  intro p e hp he
  rcases (bind_eq_error_iff _ _ _).mp hp with hp | ⟨w, -, hp⟩
  · exact lift z p e hp he
  · exact register b w _ p e hp he

end Foretells

/-! ## Fresh registers -/

theorem Registers.get_ofCount {count index : Nat} (h : index < count) :
    (Registers.ofCount count).get index = .ok (.number 0) := by
  simp only [get, ofCount, Array.getElem?_replicate, h, if_true]
  rfl

section Fresh

variable {b : Bounds} {c : Core} {i : Instruction} {op : Opcode} {β γ : Type}
  {x : Except Problem β}

/-- An operand that names a register: if the check goes on behind it, so does the machine, with a
zero. -/
theorem Foretells.fetch (hc : c.registers = .ofCount b.registers)
    (z : Except InstructionError UInt64) {g : UInt64 → Except Error γ}
    (hg : ∀ w : UInt64, c.registers.get w.toNat = .ok (.number 0) → Foretells x (g w)) :
    Foretells ((Bounds.lift z >>= b.register) >>= fun _ => x) (Core.lift z >>= g) := by
  refine (operand b z).bind fun _ hok => ?_
  obtain ⟨w, hw, hregister⟩ := (bind_eq_ok_iff _ _ _).mp hok
  rw [Bounds.lift_eq_ok_iff] at hw
  refine ⟨w, (Core.lift_eq_ok_iff z w).mpr hw, hg w ?_⟩
  rw [hc]
  exact Registers.get_ofCount ((Bounds.register_eq_ok_iff b w).mp hregister)

theorem Foretells.read (hc : c.registers = .ofCount b.registers)
    (z : Except InstructionError UInt64) {k : Value → Except Error γ}
    (hk : Foretells x (k (.number 0))) :
    Foretells ((Bounds.lift z >>= b.register) >>= fun _ => x)
      ((Core.lift z >>= fun w => c.registers.get w.toNat) >>= k) := by
  rw [bind_assoc (Core.lift z)]
  refine fetch hc z fun w hw => ?_
  rw [hw]
  exact hk

/-- Both indices come before both registers on the side of the machine, which makes no difference
while the registers hold numbers. -/
theorem Foretells.numbers (hc : c.registers = .ofCount b.registers)
    {k : Int64 × Int64 → Except Error γ} (hk : Foretells x (k (0, 0))) :
    Foretells (b.arg1 i op >>= fun _ => b.arg2 i op >>= fun _ => x) (c.numbers i op >>= k) := by
  simp only [Core.numbers, bind_assoc]
  refine fetch hc _ fun lhs hlhs => fetch hc _ fun rhs hrhs => ?_
  rw [(Registers.numbers_eq_ok_iff _ _ _ op 0 0).mpr ⟨hlhs, hrhs⟩]
  exact hk

theorem Foretells.result (b : Bounds) (c : Core) (v : Value) :
    Foretells (b.target i op) (c.result i op v) :=
  ((operand b _).bind_right _).bind_right _

theorem Instruction.targetIndex_of_none (op : Opcode) (h : i.target = none) :
    i.targetIndex op = .error (.missingOperand op .target) := by
  simp [targetIndex, h]

theorem Instruction.arg1Index_of_none (op : Opcode) (h : i.arg1.bind Operand.index? = none) :
    ∃ cause, i.arg1Index op = .error cause ∧
      cause.message ≠ (InstructionError.missingOperand op .target).message := by
  cases harg1 : i.arg1 with
  | none =>
      refine ⟨.missingOperand op .arg1, ?_, InstructionError.missing_ne op⟩
      simp [arg1Index, operandIndex, operand, harg1, bind, Except.bind]
  | some found =>
      rw [harg1, Option.bind_some] at h
      refine ⟨.invalidOperand op .arg1 found, ?_, InstructionError.invalid_ne op found⟩
      simp [arg1Index, operandIndex, operand, harg1, bind, Except.bind, h]

/-- A conditional jump looks at its target first, where the check looks at its register first. That
is no difference if one of the two is in order. -/
theorem Foretells.jumpIf (hc : c.registers = .ofCount b.registers) (wanted : Bool)
    (h : i.target = none → i.arg1.bind Operand.index? ≠ none) :
    Foretells (do b.arg1 i op; b.jump (← Bounds.lift (i.targetIndex op)))
      (c.jumpIf wanted i op) := by
  unfold Core.jumpIf
  cases ht : i.target with
  | some t =>
      rw [Bounds.lift_targetIndex ht,
        (Core.lift_eq_ok_iff _ t).mpr ((Instruction.targetIndex_eq_ok_iff i op t).mpr ht)]
      exact read hc _ (jump b t _)
  | none =>
      obtain ⟨w, hw⟩ := Option.ne_none_iff_exists'.mp (h ht)
      rw [Bounds.arg1, (Instruction.arg1Index_eq_ok_iff i op w).mpr hw]
      intro p e hp he
      rcases (bind_eq_error_iff _ _ _).mp hp with hregister | ⟨-, -, hjump⟩
      · exact register b w _ p e hregister he
      · rw [Instruction.targetIndex_of_none op ht] at hjump ⊢
        cases hjump
        cases he
        rfl

end Fresh

/-- A conditional jump without a target and without a register to look at. -/
structure Instruction.Aimless (i : Instruction) : Prop where
  conditional : i.decode = .ok .jumpIfTrue ∨ i.decode = .ok .jumpIfFalse
  target : i.target = none
  arg1 : i.arg1.bind Operand.index? = none

/-- Every other operation takes its operands in the order of the check. -/
theorem Bounds.foretells_operands {b : Bounds} {c : Core} {i : Instruction} {op : Opcode}
    (maxDepth : Option Nat) (hc : c.registers = .ofCount b.registers) (hd : i.decode = .ok op)
    (haim : ¬i.Aimless) : Foretells (b.operands i op) (c.resolve maxDepth b.hosts i op) := by
  cases op with
  | store => exact .lift_bind _ fun o => .result b c _
  | set => exact .read hc _ (.result b c _)
  | add =>
      -- Two zeros do not overflow, so the machine gets to the target.
      have hsum : Core.sum 0 0 = .ok 0 := by decide
      refine .numbers hc ?_
      simp only [hsum]
      exact .result b c _
  | equals => exact .read hc _ (.read hc _ (.result b c _))
  | lessThan | lessThanEquals => exact .numbers hc (.result b c _)
  | push | pop | print => exact ((Foretells.operand b _).bind_right _).bind_right _
  | jump => exact .lift_bind _ fun t => .jump b t _
  | jumpIfTrue => exact .jumpIf hc true fun ht harg1 => haim ⟨.inl hd, ht, harg1⟩
  | jumpIfFalse => exact .jumpIf hc false fun ht harg1 => haim ⟨.inr hd, ht, harg1⟩
  | callFunc => exact (Foretells.operand b _).bind_right _
  | ret | exit =>
      intro p e hp
      cases hp
  | loadGlobal =>
      refine .lift_bind _ fun w p e hp he => ?_
      rcases (bind_eq_error_iff _ _ _).mp hp with hhost | ⟨⟨⟩, hhost, htarget⟩
      · rw [host_eq_error_iff] at hhost
        rw [if_neg (Nat.not_lt.mpr hhost.1)]
        rw [hhost.2] at he
        cases he
        rfl
      · rw [if_pos ((host_eq_ok_iff b w).mp hhost)]
        exact Foretells.result b c _ p e htarget he
  | callMethod =>
      -- A zero is no handle, so the machine stops there. Of what comes behind it the check can only
      -- report registers.
      intro p e hp he
      rcases (bind_eq_error_iff _ _ _).mp hp with harg1 | ⟨-, -, hrest⟩
      · exact (Foretells.operand b _).bind_right _ p e harg1 he
      · rcases (bind_eq_error_iff _ _ _).mp hrest with hargs | ⟨-, -, htarget⟩
        · rcases eachRegister_eq_error hargs with ⟨w, rfl⟩
          cases he
        · split at htarget
          · exact Foretells.register b _ _ p e htarget he
          · cases htarget

namespace Instruction.Aimless

variable {i : Instruction} {op : Opcode}

theorem decoded (h : i.Aimless) : ∃ op, i.decode = .ok op :=
  h.conditional.elim (fun hd => ⟨_, hd⟩) (fun hd => ⟨_, hd⟩)

theorem resolve (h : i.Aimless) (c : Core) (maxDepth : Option Nat) (hosts : Nat)
    (hd : i.decode = .ok op) :
    c.resolve maxDepth hosts i op = .error (.instruction (.missingOperand op .target)) := by
  have htarget := targetIndex_of_none op h.target
  rcases h.conditional with hop | hop
  · cases hd.symm.trans hop
    simp only [Core.resolve, Core.jumpIf, htarget]
    rfl
  · cases hd.symm.trans hop
    simp only [Core.resolve, Core.jumpIf, htarget]
    rfl

theorem operands (h : i.Aimless) (b : Bounds) (hd : i.decode = .ok op) :
    ∃ cause, b.operands i op = .error (.instruction cause) ∧
      cause.message ≠ (InstructionError.missingOperand op .target).message := by
  obtain ⟨cause, hcause, hne⟩ := arg1Index_of_none op h.arg1
  refine ⟨cause, ?_, hne⟩
  rcases h.conditional with hop | hop
  · cases hd.symm.trans hop
    simp only [Bounds.operands, Bounds.arg1, hcause]
    rfl
  · cases hd.symm.trans hop
    simp only [Bounds.operands, Bounds.arg1, hcause]
    rfl

end Instruction.Aimless

namespace Machine

section Foretold

variable {E : Environment α τ} {m : Machine α τ} {i : Instruction} {p : Problem}

theorem step_of_foretold {e : Error} (hs : m.status = .running) (hb : m.spentBudget? = none)
    (hc : m.current? = some i) (hfresh : m.core.registers = .ofCount m.bounds.registers)
    (haim : ¬i.Aimless) (hp : m.bounds.instruction i = .error p) (he : p.error? = some e) :
    (m.step E).result = .error e := by
  rcases (bind_eq_error_iff _ _ _).mp hp with hdecode | ⟨op, hdecode, hoperands⟩
  · obtain ⟨cause, hcause, rfl⟩ := (Bounds.lift_eq_error_iff _ _).mp hdecode
    cases he
    rw [step_of_undecoded hs hc hb hcause]
    rfl
  · rw [Bounds.lift_eq_ok_iff] at hdecode
    have heffect : m.advance.effect i op = .error e :=
      Bounds.foretells_operands (c := m.advance.core) m.config.maxCallDepth hfresh hdecode haim
        p e hoperands he
    rw [step_of_refused ⟨hs, hc, hb, hdecode⟩ heffect]
    rfl

theorem step_of_aimless (hs : m.status = .running) (hb : m.spentBudget? = none)
    (hc : m.current? = some i) (haim : i.Aimless) (hp : m.bounds.instruction i = .error p) :
    ∃ e, (m.step E).result = .error e ∧ e.message ≠ p.message := by
  obtain ⟨op, hd⟩ := haim.decoded
  have hstep := step_of_refused (E := E) ⟨hs, hc, hb, hd⟩ (haim.resolve _ _ _ hd)
  obtain ⟨cause, hcause, hne⟩ := haim.operands m.bounds hd
  simp only [Bounds.instruction, hd] at hp
  have hproblem : p = .instruction cause := Except.error.inj (hp.symm.trans hcause)
  refine ⟨_, congrArg Outcome.result hstep, ?_⟩
  rw [hproblem]
  exact hne.symm

end Foretold

/-- A program of one instruction, on a fresh machine without a step limit. If the check reports it
in the words of an error that can be foretold, the run fails in the same words, except for an
aimless jump. -/
theorem check_foretells_iff (E : Environment α τ) (config : Config) (i : Instruction)
    (w : World α τ) (d : Diagnostic) (e : Error) (hlimit : config.maxSteps = none)
    (hd : d ∈ (Program.ofList [i]).check config.registerCount w.hosts.size)
    (he : e.isForetold = true) (hmessage : d.problem.message = e.message) :
    (∃ e' t, (boot config (.ofList [i]) w).Returns E (.error e') t ∧
      e'.message = d.problem.message) ↔ ¬i.Aimless := by
  obtain ⟨i', hfetch, hp⟩ := (Program.mem_check_iff _ _ _ d).mp hd
  obtain ⟨hpc, rfl⟩ : d.pc = 0 ∧ i = i' := by
    simpa [Program.fetch?, Program.ofList, List.getElem?_singleton] using hfetch
  have hb : (boot config (.ofList [i]) w).spentBudget? = none := by
    simp [spentBudget?, boot, hlimit]
  have hbounds : (boot config (.ofList [i]) w).bounds =
      (Program.ofList [i]).bounds config.registerCount w.hosts.size := by
    simp [bounds, boot]
  rw [← hbounds] at hp
  constructor
  · rintro ⟨e', t, hreturns, hsame⟩ haim
    obtain ⟨e'', hstep, hne⟩ := step_of_aimless (E := E) rfl hb rfl haim hp
    cases ((returns_iff_of_error hstep).mp hreturns).1
    exact hne hsame
  · intro haim
    obtain ⟨e', he'⟩ := Problem.exists_error he hmessage
    have hfresh : (boot config (.ofList [i]) w).core.registers =
        .ofCount (boot config (.ofList [i]) w).bounds.registers := by
      rw [hbounds]
      rfl
    have hstep := step_of_foretold (E := E) rfl hb rfl hfresh haim hp he'
    exact ⟨e', _, returns_of_error rfl hstep, Problem.message_eq he'⟩

def lone (i : Instruction) : Machine (Standard Script) Transcript :=
  boot {} (.ofList [i]) ⟨Standard.table {}, {}⟩

/-- A host function that is not there is foretold although the target is missing as well. -/
theorem check_foretells_iff_unknownHost :
    ∃ e t, (lone { Instruction.ofOpcode .loadGlobal with arg1 := some (.ofIndex 7) }).Returns
      Standard.scripted (.error e) t ∧ e.message = (Problem.host 7).message := by
  refine (check_foretells_iff Standard.scripted {} _ ⟨Standard.table {}, {}⟩ ⟨0, .host 7⟩
    (.unknownHostFunction 7) rfl (by decide) rfl rfl).mpr ?_
  rintro ⟨hconditional, -, -⟩
  revert hconditional
  decide

/-- A conditional jump without any operand is reported for its register and fails for its
target. -/
theorem bare_jump_foretold_wrongly :
    (Program.ofList [.ofOpcode .jumpIfTrue]).check 12 2 =
      [⟨0, .instruction (.missingOperand .jumpIfTrue .arg1)⟩] ∧
    (∃ t, (lone (.ofOpcode .jumpIfTrue)).Returns Standard.scripted
      (.error (.instruction (.missingOperand .jumpIfTrue .target))) t) ∧
    ∀ e t, (lone (.ofOpcode .jumpIfTrue)).Returns Standard.scripted (.error e) t →
      e.message ≠ (Problem.instruction (.missingOperand .jumpIfTrue .arg1)).message := by
  have hstep : ((lone (.ofOpcode .jumpIfTrue)).step Standard.scripted).result =
      .error (.instruction (.missingOperand .jumpIfTrue .target)) := by decide
  refine ⟨by decide, ⟨_, returns_of_error rfl hstep⟩, ?_⟩
  intro e t hreturns
  cases ((returns_iff_of_error hstep).mp hreturns).1
  exact (InstructionError.missing_ne .jumpIfTrue).symm

end Machine

end RegisterMachine
