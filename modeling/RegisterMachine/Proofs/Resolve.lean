import RegisterMachine.Machine.Effect

/-!
# What an instruction resolves to

`Core.Resolves` says, operation by operation, which effect an instruction comes
down to and what has to hold of its operands for that. It is a relation and not
a second resolver: nothing in it is done in an order. `Core.resolve_eq_ok_iff`
ties the two together, so that a statement about every effect is a case analysis
over `Core.Resolves` and never opens the resolver again.

An operand is read in two ways. `Core.Reads` is the value of the register that
an operand names, and `Core.Targets` is the register that the target names.
-/

namespace RegisterMachine

/-- A sequence of two fallible steps succeeds exactly if both of them do. -/
theorem bind_eq_ok_iff {ε β γ : Type} (x : Except ε β) (f : β → Except ε γ) (c : γ) :
    (x >>= f) = .ok c ↔ ∃ b, x = .ok b ∧ f b = .ok c := by
  cases x with
  | error e => simp [bind, Except.bind]
  | ok b => simp [bind, Except.bind]

/-- A sequence of two fallible steps fails with the first failure. -/
theorem bind_eq_error_iff {ε β γ : Type} (x : Except ε β) (f : β → Except ε γ) (e : ε) :
    (x >>= f) = .error e ↔ x = .error e ∨ ∃ b, x = .ok b ∧ f b = .error e := by
  cases x with
  | error e' => simp [bind, Except.bind]
  | ok b => simp [bind, Except.bind]

/-- A step without a value that succeeds only lets the next one run. -/
theorem bind_unit_eq_ok_iff {ε γ : Type} (x : Except ε Unit) (f : Unit → Except ε γ) (c : γ) :
    (x >>= f) = .ok c ↔ x = .ok () ∧ f () = .ok c := by
  cases x with
  | error e => simp [bind, Except.bind]
  | ok b => simp [bind, Except.bind]

theorem mapError_eq_ok_iff {ε ε' β : Type} (f : ε → ε') (x : Except ε β) (b : β) :
    x.mapError f = .ok b ↔ x = .ok b := by
  cases x with
  | error e =>
      show Except.error (f e) = .ok b ↔ _
      simp
  | ok b' =>
      show (Except.ok b' : Except ε' β) = .ok b ↔ _
      simp

namespace Instruction

/-- An operand is an index exactly if it is there and reads as one. -/
theorem operandIndex_eq_ok_iff (op : Opcode) (field : Field) (o : Option Operand)
    (w : UInt64) : operandIndex op field o = .ok w ↔ o.bind Operand.index? = some w := by
  cases o with
  | none => simp [operandIndex, operand, bind, Except.bind]
  | some found =>
      cases h : found.index? with
      | none => simp [operandIndex, operand, bind, Except.bind, h]
      | some index => simp [operandIndex, operand, bind, Except.bind, h]

theorem arg1Index_eq_ok_iff (i : Instruction) (op : Opcode) (w : UInt64) :
    i.arg1Index op = .ok w ↔ i.arg1.bind Operand.index? = some w :=
  operandIndex_eq_ok_iff op .arg1 i.arg1 w

theorem arg2Index_eq_ok_iff (i : Instruction) (op : Opcode) (w : UInt64) :
    i.arg2Index op = .ok w ↔ i.arg2.bind Operand.index? = some w :=
  operandIndex_eq_ok_iff op .arg2 i.arg2 w

theorem targetIndex_eq_ok_iff (i : Instruction) (op : Opcode) (w : UInt64) :
    i.targetIndex op = .ok w ↔ i.target = some w := by
  cases h : i.target with
  | none => simp [targetIndex, h]
  | some t => simp [targetIndex, h]

theorem literal_eq_ok_iff (i : Instruction) (op : Opcode) (o : Operand) :
    i.literal op = .ok o ↔ i.arg1 = some o := by
  cases h : i.arg1 with
  | none => simp [literal, operand, h]
  | some found => simp [literal, operand, h]

/-- The tag of an instruction decides the operation, and the other way round. -/
theorem decode_eq_ok_iff (i : Instruction) (op : Opcode) :
    i.decode = .ok op ↔ i.opcode = op.mnemonic := by
  rw [← Opcode.ofMnemonic?_eq_some_iff]
  cases h : Opcode.ofMnemonic? i.opcode with
  | none => simp [decode, h]
  | some op' => simp [decode, h]

end Instruction

namespace Registers

/-- A register has a value exactly if it is there. -/
theorem exists_get_eq_ok_iff (r : Registers) (index : Nat) :
    (∃ v, r.get index = .ok v) ↔ index < r.count := by
  unfold get count
  by_cases h : index < r.slots.size
  · simp [h]
  · simp [h]

/-- What a register holds is one of the values in the file. -/
theorem mem_of_get_eq_ok {r : Registers} {index : Nat} {v : Value}
    (h : r.get index = .ok v) : v ∈ r.slots := by
  unfold get at h
  split at h
  · next w hw =>
      cases h
      exact Array.mem_of_getElem? hw
  · cases h

theorem get_eq_error {r : Registers} {index : Nat} {e : Error} (h : r.get index = .error e) :
    e = .indexOutOfBounds index r.count := by
  unfold get at h
  split at h
  · cases h
  · cases h
    rfl

theorem check_eq_error {r : Registers} {index : Nat} {e : Error}
    (h : r.check index = .error e) : e = .indexOutOfBounds index r.count := by
  unfold check at h
  split at h
  · cases h
  · cases h
    rfl

theorem numbers_eq_ok_iff (r : Registers) (lhs rhs : Nat) (op : Opcode) (m n : Int64) :
    r.numbers lhs rhs op = .ok (m, n) ↔
      r.get lhs = .ok (.number m) ∧ r.get rhs = .ok (.number n) := by
  simp only [numbers, bind_eq_ok_iff]
  constructor
  · rintro ⟨a, ha, b, hb, hab⟩
    split at hab
    · cases hab
      exact ⟨ha, hb⟩
    · cases hab
  · rintro ⟨ha, hb⟩
    exact ⟨_, ha, _, hb, rfl⟩

end Registers

namespace Core

theorem lift_ok {β : Type} (b : β) : lift (.ok b) = .ok b := rfl

theorem lift_eq_ok_iff {β : Type} (x : Except InstructionError β) (b : β) :
    lift x = .ok b ↔ x = .ok b :=
  mapError_eq_ok_iff _ x b

/-- An operand names a register, and that register holds the value: what a look-up has found that
succeeded, without the order of its checks. -/
def Reads (c : Core) (o : Option Operand) (v : Value) : Prop :=
  ∃ index, o.bind Operand.index? = some index ∧ c.registers.get index.toNat = .ok v

def Targets (c : Core) (i : Instruction) (t : Nat) : Prop :=
  ∃ w, i.target = some w ∧ w.toNat = t ∧ t < c.registers.count

theorem Reads.unique {c : Core} {o : Option Operand} {v v' : Value} (h : c.Reads o v)
    (h' : c.Reads o v') : v' = v := by
  rcases h with ⟨index, hindex, hv⟩
  rcases h' with ⟨index', hindex', hv'⟩
  rw [hindex] at hindex'
  cases hindex'
  rw [hv] at hv'
  cases hv'
  rfl

theorem Targets.ne {c : Core} {i : Instruction} {t index : Nat} (ht : c.Targets i t)
    (h : i.target.map UInt64.toNat ≠ some index) : t ≠ index := by
  rcases ht with ⟨w, hw, rfl, -⟩
  rw [hw] at h
  exact fun heq => h (congrArg some heq)

theorem arg1_eq_ok_iff (c : Core) (i : Instruction) (op : Opcode) (v : Value) :
    c.arg1 i op = .ok v ↔ c.Reads i.arg1 v := by
  simp only [arg1, bind_eq_ok_iff, lift_eq_ok_iff, Instruction.arg1Index_eq_ok_iff, Reads]

theorem arg2_eq_ok_iff (c : Core) (i : Instruction) (op : Opcode) (v : Value) :
    c.arg2 i op = .ok v ↔ c.Reads i.arg2 v := by
  simp only [arg2, bind_eq_ok_iff, lift_eq_ok_iff, Instruction.arg2Index_eq_ok_iff, Reads]

theorem target_eq_ok_iff (c : Core) (i : Instruction) (op : Opcode) (t : Nat) :
    c.target i op = .ok t ↔ c.Targets i t := by
  simp only [target, bind_eq_ok_iff, lift_eq_ok_iff, Instruction.targetIndex_eq_ok_iff, Targets]
  constructor
  · rintro ⟨w, hw, _, hcheck, ht⟩
    cases ht
    exact ⟨w, hw, rfl, (Registers.check_eq_ok_iff _ _).mp hcheck⟩
  · rintro ⟨w, hw, rfl, hlt⟩
    exact ⟨w, hw, (), (Registers.check_eq_ok_iff _ _).mpr hlt, rfl⟩

theorem result_eq_ok_iff (c : Core) (i : Instruction) (op : Opcode) (v : Value)
    (e : Effect) :
    c.result i op v = .ok e ↔ ∃ t, c.Targets i t ∧ e = .update (.write t v) := by
  simp only [result, bind_eq_ok_iff, target_eq_ok_iff, Except.ok.injEq]
  constructor
  · rintro ⟨t, ht, rfl⟩
    exact ⟨t, ht, rfl⟩
  · rintro ⟨t, ht, rfl⟩
    exact ⟨t, ht, rfl⟩

theorem numbers_eq_ok_iff (c : Core) (i : Instruction) (op : Opcode) (a b : Int64) :
    c.numbers i op = .ok (a, b) ↔
      c.Reads i.arg1 (.number a) ∧ c.Reads i.arg2 (.number b) := by
  simp only [numbers, bind_eq_ok_iff, lift_eq_ok_iff, Instruction.arg1Index_eq_ok_iff,
    Instruction.arg2Index_eq_ok_iff, Registers.numbers_eq_ok_iff, Reads]
  constructor
  · rintro ⟨l, hl, r, hr, ha, hb⟩
    exact ⟨⟨l, hl, ha⟩, ⟨r, hr, hb⟩⟩
  · rintro ⟨⟨l, hl, ha⟩, ⟨r, hr, hb⟩⟩
    exact ⟨l, hl, r, hr, ha, hb⟩

/-- The current frame has a top exactly if it is not empty. -/
theorem frameTop_eq_ok_iff (c : Core) (v : Value) :
    c.frameTop = .ok v ↔ c.fp < c.stack.size ∧ c.stack.top = .ok v := by
  unfold frameTop
  split
  · next h => simp [Nat.not_lt.mpr h]
  · next h => simp [Nat.not_le.mp h]

/-- A list of registers is gathered exactly if all of them are there. -/
theorem exists_gather_eq_ok_iff (c : Core) (ws : List UInt64) :
    (∃ vs, c.gather ws = .ok vs) ↔ ∀ w ∈ ws, w.toNat < c.registers.count := by
  induction ws with
  | nil => simp [gather]
  | cons w ws ih =>
      rw [List.forall_mem_cons, ← ih, ← Registers.exists_get_eq_ok_iff]
      simp only [gather, bind_eq_ok_iff]
      constructor
      · rintro ⟨_, v, hv, vs, hvs, -⟩
        exact ⟨⟨v, hv⟩, ⟨vs, hvs⟩⟩
      · rintro ⟨⟨v, hv⟩, ⟨vs, hvs⟩⟩
        exact ⟨v :: vs, v, hv, vs, hvs, rfl⟩

/-- What an instruction comes down to on a core, with a limit on the nesting and so many host
functions: a case for each operation, with all that has to hold for it. -/
inductive Resolves (c : Core) (maxDepth : Option Nat) (hosts : Nat) (i : Instruction) :
    Opcode → Effect → Prop
  | store {o : Operand} {t : Nat} (ho : i.arg1 = some o) (ht : c.Targets i t) :
      Resolves c maxDepth hosts i .store (.update (.write t o.toValue))
  | set {v : Value} {t : Nat} (hv : c.Reads i.arg1 v) (ht : c.Targets i t) :
      Resolves c maxDepth hosts i .set (.update (.write t v))
  | add {a b n : Int64} {t : Nat} (ha : c.Reads i.arg1 (.number a))
      (hb : c.Reads i.arg2 (.number b)) (hn : sum a b = .ok n) (ht : c.Targets i t) :
      Resolves c maxDepth hosts i .add (.update (.write t (.number n)))
  | equals {a b : Value} {equal : Bool} {t : Nat} (ha : c.Reads i.arg1 a)
      (hb : c.Reads i.arg2 b) (he : a.equals? b = some equal) (ht : c.Targets i t) :
      Resolves c maxDepth hosts i .equals (.update (.write t (.boolean equal)))
  | lessThan {a b : Int64} {t : Nat} (ha : c.Reads i.arg1 (.number a))
      (hb : c.Reads i.arg2 (.number b)) (ht : c.Targets i t) :
      Resolves c maxDepth hosts i .lessThan (.update (.write t (.boolean (a < b))))
  | lessThanEquals {a b : Int64} {t : Nat} (ha : c.Reads i.arg1 (.number a))
      (hb : c.Reads i.arg2 (.number b)) (ht : c.Targets i t) :
      Resolves c maxDepth hosts i .lessThanEquals (.update (.write t (.boolean (a ≤ b))))
  | push {v : Value} (hv : c.Reads i.arg1 v) :
      Resolves c maxDepth hosts i .push (.update (.push v))
  | pop {v : Value} {t : Nat} (ht : c.Targets i t) (hfp : c.fp < c.stack.size)
      (hv : c.stack.top = .ok v) :
      Resolves c maxDepth hosts i .pop (.update (.pop t v))
  | jump {w : UInt64} (hw : i.target = some w) :
      Resolves c maxDepth hosts i .jump (.update (.jump w.toNat))
  | jumpIfTrue {w : UInt64} {v : Value} (hw : i.target = some w) (hv : c.Reads i.arg1 v) :
      Resolves c maxDepth hosts i .jumpIfTrue
        (.update (if v = .boolean true then .jump w.toNat else .stay))
  | jumpIfFalse {w : UInt64} {v : Value} (hw : i.target = some w) (hv : c.Reads i.arg1 v) :
      Resolves c maxDepth hosts i .jumpIfFalse
        (.update (if v = .boolean false then .jump w.toNat else .stay))
  | callFunc {address : UInt64} (ha : c.Reads i.arg1 (.address address))
      (hargs : i.argCount.toNat ≤ c.stack.size)
      (hdepth : ∀ limit ∈ maxDepth, c.calls.depth < limit) :
      Resolves c maxDepth hosts i .callFunc
        (.update (.call address.toNat i.argCount.toNat))
  | ret {v : Value} {frame : Frame} (hframe : c.calls.top = .ok frame)
      (hfp : c.fp < c.stack.size) (hv : c.stack.top = .ok v) :
      Resolves c maxDepth hosts i .ret (.update (.ret v frame))
  | loadGlobal {w : UInt64} {t : Nat} (hw : i.arg1.bind Operand.index? = some w)
      (hhost : w.toNat < hosts) (ht : c.Targets i t) :
      Resolves c maxDepth hosts i .loadGlobal (.update (.write t (.host w)))
  | callMethod {w : UInt64} {args : List Value} (hw : c.Reads i.arg1 (.host w))
      (hargs : c.gather i.args = .ok args)
      (ht : ∀ t ∈ i.target, t.toNat < c.registers.count) :
      Resolves c maxDepth hosts i .callMethod
        (.invoke w.toNat args (i.target.map UInt64.toNat))
  | print {v : Value} (hv : c.Reads i.arg1 v) :
      Resolves c maxDepth hosts i .print (.print v.display)
  | exit : Resolves c maxDepth hosts i .exit .exit

/-- A conditional jump resolves if its target and its register are there. -/
theorem jumpIf_eq_ok_iff (c : Core) (wanted : Bool) (i : Instruction) (op : Opcode)
    (e : Effect) :
    c.jumpIf wanted i op = .ok e ↔ ∃ w v, i.target = some w ∧ c.Reads i.arg1 v ∧
      e = .update (if v = .boolean wanted then .jump w.toNat else .stay) := by
  simp only [jumpIf, bind_eq_ok_iff, lift_eq_ok_iff, Instruction.targetIndex_eq_ok_iff,
    arg1_eq_ok_iff, Except.ok.injEq]
  constructor
  · rintro ⟨w, hw, v, hv, rfl⟩
    exact ⟨w, v, hw, hv, rfl⟩
  · rintro ⟨w, v, hw, hv, rfl⟩
    exact ⟨w, hw, v, hv, rfl⟩

theorem filter_le_eq_none_iff (limit : Option Nat) (n : Nat) :
    limit.filter (· ≤ n) = none ↔ ∀ l ∈ limit, n < l := by
  cases limit with
  | none => simp
  | some l => simp

theorem callFunc_eq_ok_iff (c : Core) (maxDepth : Option Nat) (i : Instruction)
    (op : Opcode) (e : Effect) :
    c.callFunc maxDepth i op = .ok e ↔ ∃ address, c.Reads i.arg1 (.address address) ∧
      i.argCount.toNat ≤ c.stack.size ∧ (∀ limit ∈ maxDepth, c.calls.depth < limit) ∧
      e = .update (.call address.toNat i.argCount.toNat) := by
  simp only [callFunc, bind_eq_ok_iff, lift_eq_ok_iff, Instruction.arg1Index_eq_ok_iff]
  constructor
  · rintro ⟨w, hw, v, hv, h⟩
    split at h
    · next address =>
        split at h
        · cases h
        · next hsize =>
            split at h
            · cases h
            · next hnone =>
                cases h
                exact ⟨address, ⟨w, hw, hv⟩, Nat.not_lt.mp hsize,
                  (filter_le_eq_none_iff _ _).mp hnone, rfl⟩
    · cases h
  · rintro ⟨address, ⟨w, hw, hv⟩, hsize, hdepth, rfl⟩
    refine ⟨w, hw, _, hv, ?_⟩
    rw [← filter_le_eq_none_iff] at hdepth
    simp only [Nat.not_lt.mpr hsize, if_false, hdepth]

theorem ret_eq_ok_iff (c : Core) (e : Effect) :
    c.ret = .ok e ↔ ∃ frame v, c.calls.top = .ok frame ∧ c.fp < c.stack.size ∧
      c.stack.top = .ok v ∧ e = .update (.ret v frame) := by
  simp only [ret, bind_eq_ok_iff, frameTop_eq_ok_iff, Except.ok.injEq]
  constructor
  · rintro ⟨frame, hframe, v, ⟨hfp, hv⟩, rfl⟩
    exact ⟨frame, v, hframe, hfp, hv, rfl⟩
  · rintro ⟨frame, v, hframe, hfp, hv, rfl⟩
    exact ⟨frame, hframe, v, ⟨hfp, hv⟩, rfl⟩

theorem callMethod_eq_ok_iff (c : Core) (i : Instruction) (op : Opcode) (e : Effect) :
    c.callMethod i op = .ok e ↔ ∃ w args, c.Reads i.arg1 (.host w) ∧
      c.gather i.args = .ok args ∧ (∀ t ∈ i.target, t.toNat < c.registers.count) ∧
      e = .invoke w.toNat args (i.target.map UInt64.toNat) := by
  simp only [callMethod, bind_eq_ok_iff, lift_eq_ok_iff, Instruction.arg1Index_eq_ok_iff]
  constructor
  · rintro ⟨r, hr, v, hv, h⟩
    split at h
    · next w =>
        obtain ⟨args, hargs, h⟩ := (bind_eq_ok_iff _ _ _).mp h
        refine ⟨w, args, ⟨r, hr, hv⟩, hargs, ?_⟩
        cases ht : i.target with
        | none =>
            simp only [ht] at h
            cases h
            simp
        | some t =>
            simp only [ht, bind_eq_ok_iff] at h
            obtain ⟨_, hcheck, h⟩ := h
            cases h
            simpa using (Registers.check_eq_ok_iff _ _).mp hcheck
    · cases h
  · rintro ⟨w, args, ⟨r, hr, hv⟩, hargs, ht, rfl⟩
    refine ⟨r, hr, _, hv, ?_⟩
    refine (bind_eq_ok_iff _ _ _).mpr ⟨args, hargs, ?_⟩
    cases hi : i.target with
    | none => rfl
    | some t =>
        have hlt := (Registers.check_eq_ok_iff c.registers t.toNat).mpr (ht t hi)
        simp [hlt, bind, Except.bind]

/-- An effect is resolved only if the operands call for it. -/
theorem Resolves.of_resolve {c : Core} {maxDepth : Option Nat} {hosts : Nat}
    {i : Instruction} {op : Opcode} {e : Effect}
    (h : c.resolve maxDepth hosts i op = .ok e) : c.Resolves maxDepth hosts i op e := by
  cases op <;>
    simp only [resolve, bind_eq_ok_iff, lift_eq_ok_iff, arg1_eq_ok_iff, arg2_eq_ok_iff,
      numbers_eq_ok_iff, result_eq_ok_iff, target_eq_ok_iff, frameTop_eq_ok_iff,
      jumpIf_eq_ok_iff, callFunc_eq_ok_iff, ret_eq_ok_iff, callMethod_eq_ok_iff,
      Instruction.literal_eq_ok_iff, Instruction.targetIndex_eq_ok_iff,
      Instruction.arg1Index_eq_ok_iff, Except.ok.injEq, Prod.exists] at h
  case store =>
      obtain ⟨o, ho, t, ht, rfl⟩ := h
      exact .store ho ht
  case set =>
      obtain ⟨v, hv, t, ht, rfl⟩ := h
      exact .set hv ht
  case add =>
      obtain ⟨a, b, ⟨ha, hb⟩, n, hn, t, ht, rfl⟩ := h
      exact .add ha hb hn ht
  case equals =>
      obtain ⟨a, ha, b, hb, h⟩ := h
      split at h
      · next equal he =>
          obtain ⟨t, ht, rfl⟩ := (result_eq_ok_iff _ _ _ _ _).mp h
          exact .equals ha hb he ht
      · cases h
  case lessThan =>
      obtain ⟨a, b, ⟨ha, hb⟩, t, ht, rfl⟩ := h
      exact .lessThan ha hb ht
  case lessThanEquals =>
      obtain ⟨a, b, ⟨ha, hb⟩, t, ht, rfl⟩ := h
      exact .lessThanEquals ha hb ht
  case push =>
      obtain ⟨v, hv, rfl⟩ := h
      exact .push hv
  case pop =>
      obtain ⟨t, ht, v, ⟨hfp, hv⟩, rfl⟩ := h
      exact .pop ht hfp hv
  case jump =>
      obtain ⟨w, hw, rfl⟩ := h
      exact .jump hw
  case jumpIfTrue =>
      obtain ⟨w, v, hw, hv, rfl⟩ := h
      exact .jumpIfTrue hw hv
  case jumpIfFalse =>
      obtain ⟨w, v, hw, hv, rfl⟩ := h
      exact .jumpIfFalse hw hv
  case callFunc =>
      obtain ⟨address, ha, hargs, hdepth, rfl⟩ := h
      exact .callFunc ha hargs hdepth
  case ret =>
      obtain ⟨frame, v, hframe, hfp, hv, rfl⟩ := h
      exact .ret hframe hfp hv
  case loadGlobal =>
      obtain ⟨w, hw, h⟩ := h
      split at h
      · next hhost =>
          obtain ⟨t, ht, rfl⟩ := (result_eq_ok_iff _ _ _ _ _).mp h
          exact .loadGlobal hw hhost ht
      · cases h
  case callMethod =>
      obtain ⟨w, args, hw, hargs, ht, rfl⟩ := h
      exact .callMethod hw hargs ht
  case print =>
      obtain ⟨v, hv, rfl⟩ := h
      exact .print hv
  case exit =>
      cases h
      exact .exit

/-- What the operands call for is resolved. -/
theorem Resolves.resolve {c : Core} {maxDepth : Option Nat} {hosts : Nat}
    {i : Instruction} {op : Opcode} {e : Effect} (h : c.Resolves maxDepth hosts i op e) :
    c.resolve maxDepth hosts i op = .ok e := by
  cases h <;>
    simp only [Core.resolve, bind_eq_ok_iff, lift_eq_ok_iff, arg1_eq_ok_iff, arg2_eq_ok_iff,
      numbers_eq_ok_iff, result_eq_ok_iff, target_eq_ok_iff, frameTop_eq_ok_iff,
      jumpIf_eq_ok_iff, callFunc_eq_ok_iff, ret_eq_ok_iff, callMethod_eq_ok_iff,
      Instruction.literal_eq_ok_iff, Instruction.targetIndex_eq_ok_iff,
      Instruction.arg1Index_eq_ok_iff, Except.ok.injEq, Prod.exists]
  case store ho ht => exact ⟨_, ho, _, ht, rfl⟩
  case set hv ht => exact ⟨_, hv, _, ht, rfl⟩
  case add ha hb hn ht => exact ⟨_, _, ⟨ha, hb⟩, _, hn, _, ht, rfl⟩
  case equals ha hb he ht =>
      refine ⟨_, ha, _, hb, ?_⟩
      simp only [he]
      exact (result_eq_ok_iff _ _ _ _ _).mpr ⟨_, ht, rfl⟩
  case lessThan ha hb ht => exact ⟨_, _, ⟨ha, hb⟩, _, ht, rfl⟩
  case lessThanEquals ha hb ht => exact ⟨_, _, ⟨ha, hb⟩, _, ht, rfl⟩
  case push hv => exact ⟨_, hv, rfl⟩
  case pop ht hfp hv => exact ⟨_, ht, _, ⟨hfp, hv⟩, rfl⟩
  case jump hw => exact ⟨_, hw, rfl⟩
  case jumpIfTrue hw hv => exact ⟨_, _, hw, hv, rfl⟩
  case jumpIfFalse hw hv => exact ⟨_, _, hw, hv, rfl⟩
  case callFunc ha hargs hdepth => exact ⟨_, ha, hargs, hdepth, rfl⟩
  case ret hframe hfp hv => exact ⟨_, _, hframe, hfp, hv, rfl⟩
  case loadGlobal hw hhost ht =>
      refine ⟨_, hw, ?_⟩
      rw [if_pos hhost]
      exact (result_eq_ok_iff _ _ _ _ _).mpr ⟨_, ht, rfl⟩
  case callMethod hw hargs ht => exact ⟨_, _, hw, hargs, ht, rfl⟩
  case print hv => exact ⟨_, hv, rfl⟩

/-- An effect is resolved exactly if the operands call for it. -/
theorem resolve_eq_ok_iff (c : Core) (maxDepth : Option Nat) (hosts : Nat)
    (i : Instruction) (op : Opcode) (e : Effect) :
    c.resolve maxDepth hosts i op = .ok e ↔ c.Resolves maxDepth hosts i op e :=
  ⟨Resolves.of_resolve, Resolves.resolve⟩

/-! ## Refused operands -/

theorem lift_eq_error {β : Type} {x : Except InstructionError β} {e : Error}
    (h : lift x = .error e) : ∃ cause, e = .instruction cause := by
  cases x with
  | error cause =>
      cases h
      exact ⟨cause, rfl⟩
  | ok b => cases h

theorem gather_eq_error {c : Core} {ws : List UInt64} {e : Error}
    (h : c.gather ws = .error e) : ∃ index, e = .indexOutOfBounds index c.registers.count := by
  induction ws with
  | nil => cases h
  | cons w ws ih =>
      rcases (bind_eq_error_iff _ _ _).mp h with hget | ⟨v, -, h⟩
      · exact ⟨_, Registers.get_eq_error hget⟩
      · rcases (bind_eq_error_iff _ _ _).mp h with hrest | ⟨vs, -, h⟩
        · exact ih hrest
        · cases h

/-- A host call is refused for an operand that is no index, for a register that is not
there, or for one that holds no handle. The handle itself is not looked at. -/
theorem callMethod_eq_error {c : Core} {i : Instruction} {op : Opcode} {e : Error}
    (h : c.callMethod i op = .error e) :
    (∃ cause, e = .instruction cause) ∨
      (∃ index, e = .indexOutOfBounds index c.registers.count) ∨
      ∃ register, e = .notCallable register := by
  rcases (bind_eq_error_iff _ _ _).mp h with hlift | ⟨register, -, h⟩
  · exact .inl (lift_eq_error hlift)
  rcases (bind_eq_error_iff _ _ _).mp h with hget | ⟨v, -, h⟩
  · exact .inr (.inl ⟨_, Registers.get_eq_error hget⟩)
  split at h
  · rcases (bind_eq_error_iff _ _ _).mp h with hargs | ⟨args, -, h⟩
    · exact .inr (.inl (gather_eq_error hargs))
    cases ht : i.target with
    | none =>
        simp only [ht] at h
        cases h
    | some t =>
        simp only [ht, bind_eq_error_iff] at h
        rcases h with htarget | ⟨-, -, h⟩
        · exact .inr (.inl ⟨_, Registers.check_eq_error htarget⟩)
        · cases h
  · cases h
    exact .inr (.inr ⟨_, rfl⟩)

end Core

end RegisterMachine
