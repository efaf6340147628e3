import RegisterMachine.Proofs.Resolve
import RegisterMachine.Proofs.Stacks

/-!
# Handlers and effects

A handler changes the machine piece by piece and can fail between two changes. Execution by effect
resolves the instruction first, without touching anything, and then carries one effect out. Both
come to the same, for every operation and from every state of the machine
(`Handler.operate_comesTo`), and so do a step and one by effect (`Machine.step_eq`).

For most operations this is a matter of order, since they change nothing before the last look-up.
The others are a pop, a return and a host call, whose handlers do go on to operations that could
fail. There it takes the guards in front, and what the changes in between do to what the guards have
seen: a pop does not touch the registers that its target was checked against, and the stack that a
return cuts still reaches up to the frame pointer, even if the machine is in no state that a run
leads to.
-/

namespace RegisterMachine

variable {α τ β : Type}

namespace Handler

/-! ## Running a handler -/

section Run

variable {s s' : Working α τ} {e : Error}

theorem consult_of_ok {f : Machine α τ → Except Error β} {b : β} (h : f s.machine = .ok b) :
    (consult f).run s = .ok b s := by
  rw [EStateM.run, consult, h]

theorem consult_of_error {f : Machine α τ → Except Error β} (h : f s.machine = .error e) :
    (consult f).run s = .error e s := by
  rw [EStateM.run, consult, h]

theorem bind_of_ok {γ : Type} {h : Handler α τ β} {k : β → Handler α τ γ} {b : β}
    (hs : h.run s = .ok b s') : (h >>= k).run s = (k b).run s' := by
  rw [EStateM.run_bind, hs]

theorem bind_of_error {γ : Type} {h : Handler α τ β} {k : β → Handler α τ γ}
    (hs : h.run s = .error e s') : (h >>= k).run s = .error e s' := by
  rw [EStateM.run_bind, hs]

theorem ask_of_ok {f : World α τ → World.Response α τ β} {b : β}
    (h : (f s.machine.world).result = .ok b) :
    (ask f).run s = .ok b (s.settle (f s.machine.world)) := by
  simp only [EStateM.run, ask, h]

theorem ask_of_error {f : World α τ → World.Response α τ β}
    (h : (f s.machine.world).result = .error e) :
    (ask f).run s = .error e (s.settle (f s.machine.world)) := by
  simp only [EStateM.run, ask, h]

theorem alter_run (f : Core → Core) : (alter f).run s = .ok () (s.mapCore f) := rfl

/-- Two look-ups in a row are one. -/
theorem consult_bind {γ : Type} (f : Machine α τ → Except Error β)
    (g : β → Machine α τ → Except Error γ) :
    consult (fun m => f m >>= fun b => g b m) = consult f >>= fun b => consult (g b) := by
  funext s
  show (consult _).run s = (consult f >>= _).run s
  cases hf : f s.machine with
  | ok b =>
      rw [bind_of_ok (consult_of_ok hf)]
      simp only [EStateM.run, consult, hf]
      rfl
  | error e =>
      rw [bind_of_error (consult_of_error hf)]
      exact consult_of_error (by rw [hf]; rfl)

theorem setRegister_of_lt {index : Nat} (h : index < s.machine.core.registers.count) (v : Value) :
    (setRegister index v).run s =
      .ok () (s.mapCore fun c => { c with registers := c.registers.write index v }) := by
  have hset : s.machine.core.registers.set index v =
      .ok (s.machine.core.registers.write index v) := by
    rw [Registers.set, (Registers.check_eq_ok_iff _ _).mpr h]
    rfl
  exact bind_of_ok (consult_of_ok hset)

theorem setRegister_of_error {index : Nat} (h : s.machine.core.registers.check index = .error e)
    (v : Value) : (setRegister index v).run s = .error e s := by
  have hset : s.machine.core.registers.set index v = .error e := by
    rw [Registers.set, h]
    rfl
  exact bind_of_error (consult_of_error hset)

theorem popValue_of_top {v : Value} (h : s.machine.core.stack.top = .ok v) :
    popValue.run s = .ok v (s.mapCore fun c => { c with stack := c.stack.rest }) := by
  have hpop : s.machine.core.stack.pop = .ok (v, s.machine.core.stack.rest) := by
    rw [DataStack.pop, h]
    rfl
  have hconsult : (consult fun m => m.core.stack.pop).run s = .ok _ s := consult_of_ok hpop
  exact bind_of_ok hconsult

/-- A stack that reaches up to the frame pointer can be cut there. -/
theorem truncate_of_le (h : s.machine.core.fp ≤ s.machine.core.stack.size) :
    truncate.run s = .ok () (s.mapCore fun c => { c with stack := c.stack.bottom c.fp }) := by
  have hcut : s.machine.core.stack.truncate s.machine.core.fp =
      .ok (s.machine.core.stack.bottom s.machine.core.fp) := by
    rw [DataStack.truncate, if_neg (Nat.not_lt.mpr h)]
  exact bind_of_ok (consult_of_ok hcut)

theorem popFrame_of_top {frame : Frame} (h : s.machine.core.calls.top = .ok frame) :
    popFrame.run s = .ok frame (s.mapCore fun c => { c with calls := c.calls.rest }) := by
  have hpop : s.machine.core.calls.pop = .ok (frame, s.machine.core.calls.rest) := by
    rw [CallStack.pop, h]
    rfl
  have hconsult : (consult fun m => m.core.calls.pop).run s = .ok _ s := consult_of_ok hpop
  exact bind_of_ok hconsult

end Run

/-! ## What handlers come to -/

/-- Carries an effect out in the middle of an instruction: what it reports comes behind what has
been reported so far. -/
def carryOut (E : Environment α τ) (e : Effect) : Handler α τ Unit := fun s =>
  let o := s.machine.perform E e
  let s := { machine := o.machine, events := s.events ++ o.events }
  match o.result with
  | .ok () => .ok () s
  | .error err => .error err s

/-- A change of the core of which there is nothing to report is all that is carried out. -/
theorem carryOut_update {E : Environment α τ} {s : Working α τ} {u : Update}
    (hu : ∀ c, Machine.updateEvents c u = []) :
    (carryOut E (.update u)).run s = .ok () (s.mapCore (·.apply u)) := by
  simp only [EStateM.run, carryOut, Machine.perform, hu, List.append_nil]
  rfl

theorem carryOut_print {E : Environment α τ} {s : Working α τ} (line : String) :
    (carryOut E (.print line)).run s = (ask fun w => w.writeLine E line).run s := by
  cases hr : (s.machine.world.writeLine E line).result with
  | ok _ =>
      rw [ask_of_ok hr]
      simp only [EStateM.run, carryOut, Machine.perform, hr]
      rfl
  | error e =>
      rw [ask_of_error hr]
      simp only [EStateM.run, carryOut, Machine.perform, hr]
      rfl

theorem carryOut_invoke {E : Environment α τ} {s : Working α τ} (host : Nat) (args : List Value)
    (target : Option Nat) :
    (carryOut E (.invoke host args target)).run s = (do
      let reply ← ask fun w => w.invoke E host args
      alter fun c => Machine.receive c target reply).run s := by
  cases hr : (s.machine.world.invoke E host args).result with
  | ok reply =>
      rw [bind_of_ok (ask_of_ok hr)]
      simp only [EStateM.run, carryOut, Machine.perform, hr]
      rfl
  | error e =>
      rw [bind_of_error (ask_of_error hr)]
      simp only [EStateM.run, carryOut, Machine.perform, hr]
      rfl

/-- From a state, a handler does the same as to resolve an effect and to carry it out. The state is
part of it, since what a guard has found out about the state is what rules later failures out. -/
def ComesTo (E : Environment α τ) (s : Working α τ) (h : Handler α τ Unit)
    (f : Machine α τ → Except Error Effect) : Prop :=
  h.run s = (consult f >>= carryOut E).run s

section ComesTo

variable {E : Environment α τ} {s : Working α τ}

theorem ComesTo.of_ok {h : Handler α τ Unit} {f : Machine α τ → Except Error Effect} {e : Effect}
    (hf : f s.machine = .ok e) (hs : h.run s = (carryOut E e).run s) : ComesTo E s h f := by
  rw [ComesTo, bind_of_ok (consult_of_ok hf), hs]

theorem ComesTo.of_error {h : Handler α τ Unit} {f : Machine α τ → Except Error Effect}
    {e : Error} (hf : f s.machine = .error e) (hs : h.run s = .error e s) : ComesTo E s h f := by
  rw [ComesTo, bind_of_error (consult_of_error hf), hs]

/-- What counts of a resolver is what it says about the state. -/
theorem ComesTo.congr {h : Handler α τ Unit} {f g : Machine α τ → Except Error Effect}
    (hfg : f s.machine = g s.machine) (hg : ComesTo E s h g) : ComesTo E s h f := by
  have hconsult : (consult f).run s = (consult g).run s := by
    simp only [EStateM.run, consult, hfg]
  rw [ComesTo, hg, EStateM.run_bind, EStateM.run_bind, hconsult]

/-- What is looked up first changes nothing, and what comes then knows of it. -/
theorem ComesTo.bind {f : Machine α τ → Except Error β} {h : β → Handler α τ Unit}
    {g : β → Machine α τ → Except Error Effect}
    (hg : ∀ b, f s.machine = .ok b → ComesTo E s (h b) (g b)) :
    ComesTo E s (consult f >>= h) (fun m => f m >>= fun b => g b m) := by
  rw [ComesTo, consult_bind, bind_assoc]
  cases hf : f s.machine with
  | ok b =>
      rw [bind_of_ok (consult_of_ok hf), bind_of_ok (consult_of_ok hf)]
      exact hg b hf
  | error e => rw [bind_of_error (consult_of_error hf), bind_of_error (consult_of_error hf)]

theorem comesTo_demand {x : Except InstructionError β} {h : β → Handler α τ Unit}
    {g : β → Machine α τ → Except Error Effect} (hg : ∀ b, ComesTo E s (h b) (g b)) :
    ComesTo E s (demand x >>= h) (fun m => Core.lift x >>= fun b => g b m) :=
  ComesTo.bind fun b _ => hg b

theorem comesTo_throw (e : Error) : ComesTo E s (throw e) (fun _ => .error e) := rfl

/-- A change of the core of which there is nothing to report. -/
theorem comesTo_alter {f : Core → Core} {u : Update} (hf : ∀ c, f c = c.apply u)
    (hu : ∀ c, Machine.updateEvents c u = []) :
    ComesTo E s (alter f) (fun _ => .ok (.update u)) := by
  apply ComesTo.of_ok rfl
  have hfun : f = (·.apply u) := funext hf
  rw [carryOut_update hu, alter_run, hfun]

/-- A register is checked when it is written, and after that nothing can fail. -/
theorem comesTo_setRegister (index : Nat) (v : Value) :
    ComesTo E s (setRegister index v) (fun m => do
      m.core.registers.check index
      .ok (.update (.write index v))) := by
  cases hcheck : s.machine.core.registers.check index with
  | ok _ =>
      apply ComesTo.of_ok (by rw [hcheck]; rfl)
      have hlt := (Registers.check_eq_ok_iff _ _).mp hcheck
      rw [setRegister_of_lt hlt, carryOut_update fun _ => rfl]
      rfl
  | error e =>
      apply ComesTo.of_error (by rw [hcheck]; rfl)
      exact setRegister_of_error hcheck v

theorem comesTo_result (i : Instruction) (op : Opcode) (v : Value) :
    ComesTo E s (result i op v) (fun m => m.core.result i op v) := by
  have hresult (c : Core) : c.result i op v = (do
      let t ← Core.lift (i.targetIndex op)
      c.registers.check t.toNat
      .ok (.update (.write t.toNat v))) := by
    simp only [Core.result, Core.target, bind_assoc]
    rfl
  simp only [hresult]
  exact comesTo_demand fun t => comesTo_setRegister t.toNat v

/-- The register of a pop is still there when it is written: taking the value off has not touched
the registers. -/
theorem comesTo_pop (i : Instruction) (op : Opcode) :
    ComesTo E s (pop i op) (fun m => do
      let t ← m.core.target i op
      let v ← m.core.frameTop
      .ok (.update (.pop t v))) := by
  refine ComesTo.bind fun t ht => ?_
  have hlt : t < s.machine.core.registers.count := by
    obtain ⟨w, -, hw⟩ := (bind_eq_ok_iff _ _ _).mp ht
    obtain ⟨_, hcheck, ht⟩ := (bind_eq_ok_iff _ _ _).mp hw
    cases ht
    exact (Registers.check_eq_ok_iff _ _).mp hcheck
  by_cases hfp : s.machine.core.stack.size ≤ s.machine.core.fp
  · apply ComesTo.of_error
    · rw [Core.frameTop, if_pos hfp]
      rfl
    · apply bind_of_error
      exact consult_of_error (by rw [Core.checkFrame, if_pos hfp])
  · obtain ⟨v, hv⟩ := DataStack.exists_top (s := s.machine.core.stack) (by omega)
    have hframe : s.machine.core.checkFrame = .ok () := by rw [Core.checkFrame, if_neg hfp]
    apply ComesTo.of_ok
    · rw [Core.frameTop, if_neg hfp, hv]
      rfl
    · have hwrite := setRegister_of_lt
        (s := s.mapCore fun c => { c with stack := c.stack.rest }) hlt v
      rw [bind_of_ok (consult_of_ok hframe), bind_of_ok (popValue_of_top hv), hwrite,
        carryOut_update fun _ => rfl]
      rfl

theorem comesTo_jump (target : Nat) :
    ComesTo E s (jump target) (fun _ => .ok (.update (.jump target))) :=
  comesTo_alter (fun _ => rfl) (fun _ => rfl)

theorem comesTo_jumpIf (wanted : Bool) (i : Instruction) (op : Opcode) :
    ComesTo E s (jumpIf wanted i op) (fun m => m.core.jumpIf wanted i op) := by
  refine comesTo_demand fun t => ComesTo.bind fun v _ => ?_
  by_cases hv : v = .boolean wanted
  · simp only [hv, if_true]
    exact comesTo_jump t.toNat
  · simp only [hv, if_false]
    apply ComesTo.of_ok rfl
    rw [carryOut_update fun _ => rfl]
    rfl

theorem comesTo_callFunc (i : Instruction) (op : Opcode) :
    ComesTo E s (callFunc i op) (fun m => m.core.callFunc m.config.maxCallDepth i op) := by
  refine comesTo_demand fun register => ComesTo.bind fun v _ => ?_
  cases v with
  | address address =>
      by_cases hsize : s.machine.core.stack.size < i.argCount.toNat
      · apply ComesTo.of_error (if_pos hsize)
        exact bind_of_error (consult_of_error (if_pos hsize))
      · have harguments : s.machine.core.checkArguments i.argCount.toNat = .ok () := if_neg hsize
        cases hlimit : s.machine.config.maxCallDepth.filter (· ≤ s.machine.core.calls.depth) with
        | some limit =>
            have hdepth : s.machine.checkDepth = .error (.callDepthExceeded limit) := by
              rw [Machine.checkDepth, hlimit]
            apply ComesTo.of_error
            · simp only [hsize, if_false, hlimit]
              rfl
            · rw [bind_of_ok (consult_of_ok harguments)]
              exact bind_of_error (consult_of_error hdepth)
        | none =>
            have hdepth : s.machine.checkDepth = .ok () := by rw [Machine.checkDepth, hlimit]
            apply ComesTo.of_ok
            · simp only [hsize, if_false, hlimit]
              rfl
            · rw [bind_of_ok (consult_of_ok harguments), bind_of_ok (consult_of_ok hdepth)]
              rfl
  | number | boolean | text | host => exact comesTo_throw _

/-- Of the four operations behind the guards of a return, three could fail. There is a value to take
off, and what is left of the stack still reaches up to the frame pointer, because it was above it by
one; and taking the value off and cutting the stack have not touched the saved frames. -/
theorem comesTo_ret : ComesTo E s ret (fun m => m.core.ret) := by
  by_cases hdepth : s.machine.core.calls.depth = 0
  · apply ComesTo.of_error
    · rw [Core.ret, CallStack.top_of_depth_eq_zero hdepth]
      rfl
    · exact bind_of_error (consult_of_error (if_pos hdepth))
  · have hcaller : s.machine.core.checkCaller = .ok () := if_neg hdepth
    obtain ⟨frame, hframe⟩ :=
      (CallStack.exists_top_iff s.machine.core.calls).mpr (Nat.pos_of_ne_zero hdepth)
    by_cases hfp : s.machine.core.stack.size ≤ s.machine.core.fp
    · apply ComesTo.of_error
      · rw [Core.ret, hframe, Core.frameTop, if_pos hfp]
        rfl
      · rw [ret, bind_of_ok (consult_of_ok hcaller)]
        exact bind_of_error (consult_of_error (if_pos hfp))
    · have hcheck : s.machine.core.checkFrame = .ok () := if_neg hfp
      obtain ⟨v, hv⟩ := DataStack.exists_top (s := s.machine.core.stack) (by omega)
      have hlength : s.machine.core.fp ≤ s.machine.core.stack.rest.size := by
        rw [DataStack.size_rest]
        omega
      have hbottom : s.machine.core.stack.rest.bottom s.machine.core.fp =
          s.machine.core.stack.bottom s.machine.core.fp := DataStack.bottom_rest (by omega)
      have hcut := truncate_of_le
        (s := s.mapCore fun c => { c with stack := c.stack.rest }) hlength
      have hpop := popFrame_of_top
        (s := (s.mapCore fun c => { c with stack := c.stack.rest }).mapCore
          fun c => { c with stack := c.stack.bottom c.fp }) hframe
      apply ComesTo.of_ok
      · rw [Core.ret, hframe, Core.frameTop, if_neg hfp, hv]
        rfl
      · rw [ret, bind_of_ok (consult_of_ok hcaller), bind_of_ok (consult_of_ok hcheck),
          bind_of_ok (popValue_of_top hv), bind_of_ok hcut, bind_of_ok hpop]
        simp only [EStateM.run, carryOut, Machine.perform, Core.apply, ← hbottom]
        rfl

/-- The target of a host call is still there when the reply is written to it: the host function has
had the world to work on, and not the registers. -/
theorem comesTo_callMethod (i : Instruction) (op : Opcode) :
    ComesTo E s (callMethod E i op) (fun m => m.core.callMethod i op) := by
  refine comesTo_demand fun register => ComesTo.bind fun v _ => ?_
  cases v with
  | host index =>
      refine ComesTo.bind fun args _ => ?_
      cases htarget : i.target with
      | none =>
          apply ComesTo.of_ok rfl
          rw [carryOut_invoke]
          rfl
      | some t =>
          refine ComesTo.bind fun _ hcheck => ComesTo.of_ok rfl ?_
          have hlt := (Registers.check_eq_ok_iff _ _).mp hcheck
          rw [carryOut_invoke]
          cases hr : (s.machine.world.invoke E index.toNat args).result with
          | error e => rw [bind_of_error (ask_of_error hr), bind_of_error (ask_of_error hr)]
          | ok reply =>
              rw [bind_of_ok (ask_of_ok hr), bind_of_ok (ask_of_ok hr)]
              cases reply with
              | none => rfl
              | some v =>
                  have hwrite := setRegister_of_lt
                    (s := s.settle (s.machine.world.invoke E index.toNat args)) hlt v
                  exact hwrite
  | number | boolean | text | address => exact comesTo_throw _

/-- Every operation, carried out in place, comes to its effect. -/
theorem operate_comesTo (i : Instruction) (op : Opcode) :
    ComesTo E s (operate E i op) (fun m => m.effect i op) := by
  cases op with
  | store => exact comesTo_demand fun o => comesTo_result i _ _
  | set => exact ComesTo.bind fun v _ => comesTo_result i _ v
  | add => exact ComesTo.bind fun ab _ => ComesTo.bind fun n _ => comesTo_result i _ _
  | equals =>
      refine ComesTo.bind fun a _ => ComesTo.bind fun b _ => ?_
      cases a.equals? b with
      | some equal => exact comesTo_result i _ _
      | none => exact comesTo_throw _
  | lessThan | lessThanEquals => exact ComesTo.bind fun ab _ => comesTo_result i _ _
  | push =>
      exact ComesTo.bind fun v _ => comesTo_alter (fun _ => rfl) (fun _ => rfl)
  | pop => exact comesTo_pop i _
  | jump => exact comesTo_demand fun t => comesTo_jump t.toNat
  | jumpIfTrue => exact comesTo_jumpIf true i _
  | jumpIfFalse => exact comesTo_jumpIf false i _
  | callFunc => exact comesTo_callFunc i _
  | ret => exact comesTo_ret
  | loadGlobal =>
      refine comesTo_demand fun index => ?_
      have hresult (host : Nat) :=
        comesTo_result (E := E) (s := s) i .loadGlobal (.host (.ofNat host))
      refine ComesTo.congr ?_ (ComesTo.bind fun host _ => hresult host)
      by_cases hlt : index.toNat < s.machine.world.hosts.size
      · rw [if_pos hlt, HostTable.resolve, if_pos hlt]
        show _ = s.machine.core.result i .loadGlobal (.host (.ofNat index.toNat))
        rw [UInt64.ofNat_toNat]
      · rw [if_neg hlt, HostTable.resolve, if_neg hlt]
        rfl
  | callMethod => exact comesTo_callMethod i _
  | print =>
      refine ComesTo.bind fun v _ => ComesTo.of_ok rfl ?_
      rw [carryOut_print]
  | exit =>
      apply ComesTo.of_ok rfl
      simp only [EStateM.run, carryOut, Machine.perform, List.append_nil]
      rfl

end ComesTo

/-! ## What is left of a failing instruction -/

section Execute

variable {E : Environment α τ} {m : Machine α τ} {i : Instruction}

/-- An effect that cannot be carried out has changed nothing but the world. -/
theorem carryOut_error {s s' : Working α τ} {effect : Effect} {e : Error}
    (h : (carryOut E effect).run s = .error e s') :
    s'.machine = { s.machine with world := s'.machine.world } := by
  cases effect with
  | update u => cases h
  | exit => cases h
  | print line =>
      rw [carryOut_print] at h
      cases hr : (s.machine.world.writeLine E line).result with
      | ok _ =>
          rw [ask_of_ok hr] at h
          cases h
      | error e' =>
          rw [ask_of_error hr] at h
          cases h
          rfl
  | invoke host args target =>
      rw [carryOut_invoke] at h
      cases hr : (s.machine.world.invoke E host args).result with
      | ok reply =>
          rw [bind_of_ok (ask_of_ok hr)] at h
          cases h
      | error e' =>
          rw [bind_of_error (ask_of_error hr)] at h
          cases h
          rfl

/-- The handler of an operation that fails has changed nothing but the world, whatever it has been
through before it failed. -/
theorem operate_error {s s' : Working α τ} {op : Opcode} {e : Error}
    (h : (operate E i op).run s = .error e s') :
    s'.machine = { s.machine with world := s'.machine.world } := by
  rw [operate_comesTo i op] at h
  cases heffect : s.machine.effect i op with
  | error e' =>
      rw [bind_of_error (consult_of_error heffect)] at h
      cases h
      rfl
  | ok effect =>
      rw [bind_of_ok (consult_of_ok heffect)] at h
      exact carryOut_error h

theorem execute_of_spent {limit : Nat} (hb : m.spentBudget? = some limit) :
    (execute E i).run ⟨m, []⟩ = .error (.stepLimitExceeded limit) ⟨m, []⟩ := by
  have hbudget : m.checkBudget = .error (.stepLimitExceeded limit) := by
    rw [Machine.checkBudget, hb]
  exact bind_of_error (consult_of_error hbudget)

/-- An instruction for which there is budget is counted before it is decoded. -/
theorem execute_of_budget (hb : m.spentBudget? = none) :
    (execute E i).run ⟨m, []⟩ = (dispatch E i).run ⟨m.advance, []⟩ := by
  have hbudget : m.checkBudget = .ok () := by rw [Machine.checkBudget, hb]
  rw [execute, bind_of_ok (consult_of_ok hbudget)]
  rfl

theorem dispatch_of_undecoded {s : Working α τ} {e : InstructionError} (hd : i.decode = .error e) :
    (dispatch E i).run s = .error (.instruction e) s := by
  have hlift : Core.lift i.decode = .error (.instruction e) := by
    rw [hd]
    rfl
  exact bind_of_error (consult_of_error hlift)

theorem dispatch_of_decoded {op : Opcode} (hd : i.decode = .ok op) :
    (dispatch E i).run ⟨m.advance, []⟩ =
      (operate E i op).run ⟨m.advance, [.dispatched m.core.pc op]⟩ := by
  have hlift : Core.lift i.decode = .ok op := by
    rw [hd]
    rfl
  have hdemand : (demand i.decode).run ⟨m.advance, []⟩ = .ok op ⟨m.advance, []⟩ :=
    consult_of_ok hlift
  rw [dispatch, bind_of_ok hdemand]
  rfl

/-- An instruction that fails leaves the machine as it was, or only counted, apart from the
world. -/
theorem execute_error {s' : Working α τ} {e : Error}
    (h : (execute E i).run ⟨m, []⟩ = .error e s') :
    (m.spentBudget?.isSome ∧ s'.machine = m) ∨
      (m.spentBudget? = none ∧ s'.machine = { m.advance with world := s'.machine.world }) := by
  cases hb : m.spentBudget? with
  | some limit =>
      rw [execute_of_spent hb] at h
      cases h
      exact .inl ⟨rfl, rfl⟩
  | none =>
      rw [execute_of_budget hb] at h
      refine .inr ⟨rfl, ?_⟩
      cases hd : i.decode with
      | error e' =>
          rw [dispatch_of_undecoded hd] at h
          cases h
          rfl
      | ok op =>
          rw [dispatch_of_decoded hd] at h
          exact operate_error h

end Execute

end Handler

namespace Machine

/-- What is carried out by effect in the middle of an instruction is the rest of an execution by
effect. -/
theorem finish_carryOut {E : Environment α τ} {m : Machine α τ} {i : Instruction} {pc : Nat}
    (e : Effect) (events : List Event) :
    finish pc i ((Handler.carryOut E e).run ⟨m, events⟩) =
      match (m.perform E e).result with
      | .ok () => { m.perform E e with events := events ++ (m.perform E e).events }
      | .error err => (m.perform E e).machine.fail pc i err (events ++ (m.perform E e).events) := by
  simp only [EStateM.run, Handler.carryOut]
  cases (m.perform E e).result with
  | ok _ => rfl
  | error err => rfl

/-- A step executes the next instruction by its effect. -/
theorem step_eq (E : Environment α τ) (m : Machine α τ) :
    m.step E =
      match m.status with
      | .halted _ => ⟨m, .ok (), []⟩
      | .running =>
        match m.current? with
        | none => ⟨{ m with status := .halted .endOfProgram }, .ok (), []⟩
        | some i =>
          match m.spentBudget? with
          | some limit => m.fail m.core.pc i (.stepLimitExceeded limit) []
          | none => m.advance.execute E m.core.pc i := by
  unfold step
  cases m.status with
  | halted reason => rfl
  | running =>
      cases m.current? with
      | none => rfl
      | some i =>
          cases hb : m.spentBudget? with
          | some limit =>
              simp only [Handler.execute_of_spent hb]
              rfl
          | none =>
              simp only [Handler.execute_of_budget hb]
              cases hd : i.decode with
              | error e =>
                  rw [Handler.dispatch_of_undecoded hd]
                  simp only [execute, hd]
                  rfl
              | ok op =>
                  rw [Handler.dispatch_of_decoded hd, Handler.operate_comesTo i op]
                  simp only [execute, hd]
                  cases he : m.advance.effect i op with
                  | error e =>
                      rw [Handler.bind_of_error (Handler.consult_of_error he)]
                      rfl
                  | ok effect =>
                      rw [Handler.bind_of_ok (Handler.consult_of_ok he), finish_carryOut]
                      rfl

end Machine

end RegisterMachine
