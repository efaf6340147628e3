import RegisterMachine.Program.Samples
import RegisterMachine.Proofs.Boundary
import RegisterMachine.Proofs.Execution

/-!
# The two Fibonacci programs

The sample programs that print the Fibonacci numbers differ in one thing only: one of them adds
in its loop, the other in a subroutine. `Rounds` is the loop without either machine: from the last
two numbers, the index of the next one and the answer it tells what is printed and how it ends,
also if a sum is no number any more or if the answer is none. It always ends, since the sum of the
last two numbers grows with every round (`exists_rounds`).

Both programs run these rounds. They start alike (`opening`) and treat the sum alike once it is in
register 8 (`closing`), so of each program only the way there is left (`Unrolls`). What both come
to is then the same, since it is what the rounds come to.
-/

namespace RegisterMachine.Fibonacci

open Instruction Machine Standard

/-! ## The rounds -/

/-- The last two numbers, the index of the next one, and the answer. -/
structure Vars where
  older : Int64
  newer : Int64
  index : Int64
  answer : Value

namespace Vars

def start (v : Value) : Vars := ⟨0, 1, 2, v⟩

def next (q : Vars) (c : Int64) : Vars := { q with older := q.newer, newer := c }

def count (q : Vars) : Except Error (Vars × Bool) := do
  let k ← Core.sum q.index 1
  match q.answer with
  | .number b => .ok ({ q with index := k }, k ≤ b)
  | v => .error (.typeMismatch .lessThanEquals .numbers .number v.kind)

theorem count_eq_ok {q q' : Vars} {again : Bool} (h : q.count = .ok (q', again)) :
    ∃ k b, Core.sum q.index 1 = .ok k ∧ q.answer = .number b ∧ q' = { q with index := k } ∧
      again = decide (k ≤ b) := by
  rcases (bind_eq_ok_iff _ _ _).mp h with ⟨k, hk, h⟩
  split at h
  · next b hb =>
      cases h
      exact ⟨k, b, hk, hb, rfl, rfl⟩
  · cases h

theorem count_eq_error {q : Vars} {e : Error} (h : q.count = .error e) :
    Core.sum q.index 1 = .error e ∨ ∃ k, Core.sum q.index 1 = .ok k ∧ q.answer.number? = none ∧
      e = .typeMismatch .lessThanEquals .numbers .number q.answer.kind := by
  rcases (bind_eq_error_iff _ _ _).mp h with h | ⟨k, hk, h⟩
  · exact .inl h
  · split at h
    · cases h
    · next hv =>
        cases h
        refine .inr ⟨k, hk, ?_, rfl⟩
        cases ha : q.answer with
        | number b => exact absurd ha (hv b)
        | _ => rfl

end Vars

/-- The numbers that are printed from a round on, and how it ends. It speaks of no registers, so
that the rounds of both programs can be compared with it. -/
inductive Rounds : Vars → List Int64 → Except Error Halt → Prop
  | overflow {q : Vars} {e : Error} (hsum : Core.sum q.older q.newer = .error e) :
      Rounds q [] (.error e)
  | failed {q : Vars} {c : Int64} {e : Error} (hsum : Core.sum q.older q.newer = .ok c)
      (hcount : (q.next c).count = .error e) : Rounds q [c] (.error e)
  | last {q q' : Vars} {c : Int64} (hsum : Core.sum q.older q.newer = .ok c)
      (hcount : (q.next c).count = .ok (q', false)) : Rounds q [c] (.ok .exit)
  | more {q q' : Vars} {c : Int64} {cs : List Int64} {result : Except Error Halt}
      (hsum : Core.sum q.older q.newer = .ok c) (hcount : (q.next c).count = .ok (q', true))
      (hrest : Rounds q' cs result) : Rounds q (c :: cs) result

theorem Rounds.eq_exit {q : Vars} {cs : List Int64} {reason : Halt}
    (h : Rounds q cs (.ok reason)) : reason = .exit := by
  generalize hr : (Except.ok reason : Except Error Halt) = result at h
  induction h with
  | overflow | failed => cases hr
  | last =>
      cases hr
      rfl
  | more _ _ _ ih => exact ih hr

/-- The rounds end, whatever the answer. -/
theorem exists_rounds (q : Vars) (hold : 0 ≤ q.older.toInt) (hnew : 0 < q.newer.toInt) :
    ∃ cs result, Rounds q cs result := by
  -- The sum of the last two numbers is below `2 ^ 64` and grows by the newer one.
  induction hd : (2 ^ 64 - (q.older.toInt + q.newer.toInt)).toNat using Nat.strongRecOn
    generalizing q with
  | _ d ih =>
      cases hsum : Core.sum q.older q.newer with
      | error e => exact ⟨_, _, .overflow hsum⟩
      | ok c =>
          cases hcount : (q.next c).count with
          | error e => exact ⟨_, _, .failed hsum hcount⟩
          | ok found =>
              rcases found with ⟨q', again⟩
              cases again with
              | false => exact ⟨_, _, .last hsum hcount⟩
              | true =>
                  rcases Vars.count_eq_ok hcount with ⟨k, b, -, -, rfl, -⟩
                  have hc := Core.toInt_of_sum_eq_ok hsum
                  have hbound := q.newer.toInt_lt
                  have hbound' := c.toInt_lt
                  have hless : (2 ^ 64 - (q.newer.toInt + c.toInt)).toNat < d := by omega
                  have hpos : 0 < c.toInt := by omega
                  rcases ih _ hless { q.next c with index := k } (Int.le_of_lt hnew) hpos rfl with
                    ⟨cs, result, hrest⟩
                  exact ⟨_, _, .more hsum hcount hrest⟩

/-! ## The machine between two instructions -/

/-- The registers that the two programs use differently. A round may find any values there, but for
what its own program keeps in them. -/
structure Scratch where
  r8 : Value := default
  r9 : Value := default
  r10 : Value := default
  r11 : Value := default

def question : String := "Enter a number: "

def registers (q : Vars) (x : Scratch) : Registers :=
  ⟨#[.host 0, .host 1, .number 1, .number q.older, .number q.newer, .number q.index,
    .text question, q.answer, x.r8, x.r9, x.r10, x.r11]⟩

def world (s : Script) (lines : Array String) : World (Standard Script) Transcript :=
  ⟨table s, { lines := lines }⟩

def machine (p : Program) (pc : Nat) (r : Registers) (s : Script) (lines : Array String)
    (n : Nat) : Machine (Standard Script) Transcript where
  config := {}
  program := p
  core := { registers := r, pc := pc }
  world := world s lines
  steps := n

def printed (lines : Array String) (cs : List Int64) : Array String :=
  cs.foldl (fun lines c => lines.push (printedLine [.number c])) lines

variable {p : Program} {pc : Nat} {r : Registers} {q : Vars} {x : Scratch} {s : Script}
  {lines : Array String} {n : Nat} {result : Except Error Halt}
  {w : World (Standard Script) Transcript}

/-- A machine has twelve registers unless it is configured otherwise. -/
theorem targets {c : Core} {i : Instruction} {t : UInt64} (hi : i.target = some t)
    (hcount : c.registers.count = 12) (ht : t.toNat < 12) : c.Targets i t.toNat :=
  ⟨t, hi, rfl, hcount ▸ ht⟩

theorem executes {i : Instruction} {op : Opcode} (hi : p.fetch? pc = some i)
    (ho : i.opcode = op.mnemonic) : (machine p pc r s lines n).Executes i op :=
  .of_opcode rfl rfl hi ho

theorem ends_of_write {i : Instruction} {op : Opcode} {t : Nat} {v : Value} {y : Registers}
    (hp : (machine p pc r s lines n).Performs i op (.update (.write t v)))
    (hwrite : r.write t v = y)
    (h : (machine p (pc + 1) y s lines (n + 1)).Ends scripted result w) :
    (machine p pc r s lines n).Ends scripted result w := by
  subst hwrite
  exact .of_update hp h

theorem ends_of_store {o : Operand} {t : UInt64} (hi : p.fetch? pc = some (store o t))
    (hcount : r.count = 12) (ht : t.toNat < 12)
    (h : (machine p (pc + 1) (r.write t.toNat o.toValue) s lines (n + 1)).Ends scripted result w) :
    (machine p pc r s lines n).Ends scripted result w :=
  ends_of_write ⟨executes hi rfl, .store rfl (targets rfl hcount ht)⟩ rfl h

theorem ends_of_print {t : UInt64} {c : Int64}
    (hi : p.fetch? pc = some (callMethod 1 [t] none))
    (hc : (registers q x).get t.toNat = .ok (.number c))
    (h : (machine p (pc + 1) (registers q x) s (lines.push (printedLine [.number c]))
      (n + 1)).Ends scripted result w) :
    (machine p pc (registers q x) s lines n).Ends scripted result w := by
  have hargs : (machine p pc (registers q x) s lines n).advance.core.gather [t] =
      .ok [.number c] := (Core.gather_eq_ok_iff _ _ _).mpr (.cons hc .nil)
  exact .of_invoke ⟨executes hi rfl, .callMethod ⟨1, rfl, rfl⟩ hargs nofun⟩ rfl rfl h

/-! ## The end of a round -/

/-- The end of a round, which both programs have: from the sum in register 8 to the next round at
`top`, or to the exit. -/
def closing (flag top : UInt64) : List Instruction := [
  set 4 3,
  set 8 4,
  callMethod 1 [8] none,
  add 5 2 5,
  lessThanEquals 5 7 flag,
  jumpIfTrue flag top,
  exit]

/-- A register that may be overwritten, by a program that keeps something in the others. -/
structure Spare (Kept : Scratch → Prop) (flag : UInt64) : Prop where
  index : (Operand.ofIndex flag).index? = some flag
  write : ∀ (q : Vars) (x : Scratch) (v : Value), Kept x → ∃ y, Kept y ∧
    (registers q x).write flag.toNat v = registers q y ∧
    (registers q y).get flag.toNat = .ok v

section Closing

variable {Kept : Scratch → Prop} {flag top : UInt64}

theorem Spare.lt (hflag : Spare Kept flag) (hx : Kept x) : flag.toNat < 12 := by
  rcases hflag.write (.start default) x default hx with ⟨y, -, -, hget⟩
  exact (Registers.exists_get_eq_ok_iff _ _).mp ⟨_, hget⟩

theorem ends_of_shift (hcode : p.CodeAt pc (closing flag top)) {c : Int64}
    (hc : x.r8 = .number c)
    (h : (machine p (pc + 3) (registers (q.next c) x) s (lines.push (printedLine [.number c]))
      (n + 3)).Ends scripted result w) :
    (machine p pc (registers q x) s lines n).Ends scripted result w := by
  have hget : (registers (q.next c) x).get 8 = .ok (.number c) := congrArg _ hc
  refine ends_of_write (y := registers { q with older := q.newer } x)
    ⟨executes (hcode.fetch? 0 rfl) rfl,
      .set ⟨4, rfl, rfl⟩ (targets rfl rfl (by decide))⟩ rfl ?_
  refine ends_of_write (y := registers (q.next c) x)
    ⟨executes (hcode.fetch? 1 rfl) rfl,
      .set ⟨8, rfl, hget⟩ (targets rfl rfl (by decide))⟩ rfl ?_
  exact ends_of_print (hcode.fetch? 2 rfl) hget h

theorem ends_of_count (hcode : p.CodeAt pc (closing flag top)) {k : Int64}
    (hk : Core.sum q.index 1 = .ok k)
    (h : (machine p (pc + 4) (registers { q with index := k } x) s lines (n + 1)).Ends scripted
      result w) : (machine p (pc + 3) (registers q x) s lines n).Ends scripted result w :=
  ends_of_write ⟨executes (hcode.fetch? 3 rfl) rfl,
    .add ⟨5, rfl, rfl⟩ ⟨2, rfl, rfl⟩ hk (targets rfl rfl (by decide))⟩ rfl h

theorem ends_of_count_error (hcode : p.CodeAt pc (closing flag top)) {e : Error}
    (h : q.count = .error e) :
    (machine p (pc + 3) (registers q x) s lines n).Ends scripted (.error e) (world s lines) := by
  rcases Vars.count_eq_error h with hk | ⟨k, hk, hv, rfl⟩
  · exact .of_refused (executes (hcode.fetch? 3 rfl) rfl)
      (Core.resolve_add_error ⟨5, rfl, rfl⟩ ⟨2, rfl, rfl⟩ hk)
  · refine ends_of_count hcode hk ?_
    exact .of_refused (executes (hcode.fetch? 4 rfl) rfl)
      (Core.resolve_lessThanEquals_error ⟨5, rfl, rfl⟩ ⟨7, rfl, rfl⟩ hv)

theorem ends_of_count_ok (hcode : p.CodeAt pc (closing flag top)) (hflag : Spare Kept flag)
    (hx : Kept x) {q' : Vars} {again : Bool} (hcount : q.count = .ok (q', again))
    (h : ∀ y n, Kept y → (machine p (if again then top.toNat else pc + 6) (registers q' y) s lines
      n).Ends scripted result w) :
    (machine p (pc + 3) (registers q x) s lines n).Ends scripted result w := by
  rcases Vars.count_eq_ok hcount with ⟨k, b, hk, hb, rfl, rfl⟩
  refine ends_of_count hcode hk ?_
  rcases hflag.write { q with index := k } x (.boolean (k ≤ b)) hx with ⟨y, hy, hwrite, hget⟩
  refine ends_of_write ⟨executes (hcode.fetch? 4 rfl) rfl, .lessThanEquals
    ⟨5, rfl, rfl⟩ ⟨7, rfl, congrArg _ hb⟩ (targets rfl rfl (hflag.lt hx))⟩ hwrite ?_
  refine .of_update ⟨executes (hcode.fetch? 5 rfl) rfl,
    .jumpIfTrue rfl ⟨flag, hflag.index, hget⟩⟩ ?_
  -- The jump is taken just if the flag says that there is another round.
  have hend := h y (n + 3) hy
  by_cases hle : k ≤ b
  · simp only [hle, decide_true, if_true] at hend ⊢
    exact hend
  · simp only [hle, decide_false] at hend ⊢
    exact hend

theorem ends_of_last (hcode : p.CodeAt pc (closing flag top)) :
    (machine p (pc + 6) (registers q x) s lines n).Ends scripted (.ok .exit) (world s lines) :=
  .of_exit (executes (hcode.fetch? 6 rfl) rfl) rfl rfl rfl

end Closing

/-- A program that runs the rounds: from `head` on it gets the sum of the last two numbers into
register 8, or fails if there is none, and goes on with the end of the round at `tail`. -/
structure Unrolls (p : Program) (Kept : Scratch → Prop) (head : UInt64) (tail : Nat)
    (flag : UInt64) : Prop extends Spare Kept flag where
  code : p.CodeAt tail (closing flag head)
  adds : ∀ {q : Vars} {x : Scratch} {s : Script} {lines : Array String} {n : Nat}
    {result : Except Error Halt} {w : World (Standard Script) Transcript} {c : Int64},
    Kept x → Core.sum q.older q.newer = .ok c →
    (∀ y n, Kept y → y.r8 = .number c →
      (machine p tail (registers q y) s lines n).Ends scripted result w) →
    (machine p head.toNat (registers q x) s lines n).Ends scripted result w
  fails : ∀ {q : Vars} {x : Scratch} {s : Script} {lines : Array String} {n : Nat} {e : Error},
    Kept x → Core.sum q.older q.newer = .error e →
    (machine p head.toNat (registers q x) s lines n).Ends scripted (.error e) (world s lines)

namespace Unrolls

variable {Kept : Scratch → Prop} {head : UInt64} {tail : Nat} {flag : UInt64}

theorem ends_of_sum (hp : Unrolls p Kept head tail flag) (hx : Kept x) {c : Int64}
    (hsum : Core.sum q.older q.newer = .ok c)
    (h : ∀ y n, Kept y → (machine p (tail + 3) (registers (q.next c) y) s
      (lines.push (printedLine [.number c])) n).Ends scripted result w) :
    (machine p head.toNat (registers q x) s lines n).Ends scripted result w :=
  hp.adds hx hsum fun y n hy hc => ends_of_shift hp.code hc (h y (n + 3) hy)

/-- The program comes to what the rounds come to. -/
theorem ends (hp : Unrolls p Kept head tail flag) {cs : List Int64} (h : Rounds q cs result)
    (hx : Kept x) : (machine p head.toNat (registers q x) s lines n).Ends scripted result
      (world s (printed lines cs)) := by
  induction h generalizing x lines n with
  | overflow hsum => exact hp.fails hx hsum
  | failed hsum hcount =>
      refine hp.ends_of_sum hx hsum fun y n hy => ?_
      exact ends_of_count_error hp.code hcount
  | last hsum hcount =>
      refine hp.ends_of_sum hx hsum fun y n hy => ?_
      refine ends_of_count_ok hp.code hp.toSpare hy hcount fun z n _ => ?_
      exact ends_of_last hp.code
  | more hsum hcount hrest ih =>
      refine hp.ends_of_sum hx hsum fun y n hy => ?_
      refine ends_of_count_ok hp.code hp.toSpare hy hcount fun z n hz => ?_
      exact ih hz

end Unrolls

/-! ## The sum, in the loop and in the subroutine -/

theorem unrolls_loop : Unrolls Program.fibonacciLoop (fun _ => True) 10 11 9 where
  index := rfl
  write q x v _ := ⟨{ x with r9 := v }, trivial, rfl, rfl⟩
  code := by decide
  adds := by
    intro q x s lines n result w c _ hsum h
    refine ends_of_write (i := add 3 4 8) (y := registers q { x with r8 := .number c })
      ⟨.of_opcode rfl rfl rfl rfl,
        .add ⟨3, rfl, rfl⟩ ⟨4, rfl, rfl⟩ hsum (targets rfl rfl (by decide))⟩ rfl ?_
    exact h _ _ trivial rfl
  fails := by
    intro q x s lines n e _ hsum
    exact .of_refused (i := add 3 4 8) (.of_opcode rfl rfl rfl rfl)
      (Core.resolve_add_error ⟨3, rfl, rfl⟩ ⟨4, rfl, rfl⟩ hsum)

/-- A machine in the subroutine, with its arguments taken from the data stack. -/
def inside (pc : Nat) (r : Registers) (s : Script) (lines : Array String) (n : Nat) :
    Machine (Standard Script) Transcript :=
  let m := machine Program.fibonacciCall pc r s lines n
  { m with core := { m.core with calls := ⟨#[⟨14, 0⟩]⟩ } }

theorem ends_of_call (hx : x.r9 = .address Program.fibonacciEntry)
    (h : (inside 24 (registers q { x with r11 := .number q.newer, r10 := .number q.older }) s lines
      (n + 5)).Ends scripted result w) :
    (machine Program.fibonacciCall 11 (registers q x) s lines n).Ends scripted result w := by
  refine .of_update (i := push 3) ⟨.of_opcode rfl rfl rfl rfl, .push ⟨3, rfl, rfl⟩⟩ ?_
  refine .of_update (i := push 4) ⟨.of_opcode rfl rfl rfl rfl, .push ⟨4, rfl, rfl⟩⟩ ?_
  -- The frame of the subroutine starts below both arguments, so it pops the newer one first.
  refine .of_update (i := callFunc 9 2) ⟨.of_opcode rfl rfl rfl rfl,
    .callFunc ⟨9, rfl, congrArg _ hx⟩ (Nat.le_of_eq rfl) nofun⟩ ?_
  refine .of_update (i := pop 11) ⟨.of_opcode rfl rfl rfl rfl,
    .pop (targets rfl rfl (by decide)) (Nat.zero_lt_succ _) rfl⟩ ?_
  refine .of_update (i := pop 10) ⟨.of_opcode rfl rfl rfl rfl,
    .pop (targets rfl rfl (by decide)) (Nat.zero_lt_succ _) rfl⟩ ?_
  exact h

theorem ends_of_return {a b c : Int64} (hsum : Core.sum a b = .ok c) (ha : x.r10 = .number a)
    (hb : x.r11 = .number b)
    (h : (machine Program.fibonacciCall 15
      (registers q { x with r8 := .number c, r10 := .number c }) s lines (n + 4)).Ends scripted
      result w) : (inside 24 (registers q x) s lines n).Ends scripted result w := by
  refine .of_update (i := add 10 11 10) ⟨.of_opcode rfl rfl rfl rfl,
    .add ⟨10, rfl, congrArg _ ha⟩ ⟨11, rfl, congrArg _ hb⟩ hsum (targets rfl rfl (by decide))⟩ ?_
  refine .of_update (i := push 10) ⟨.of_opcode rfl rfl rfl rfl, .push ⟨10, rfl, rfl⟩⟩ ?_
  -- The sum stays on the data stack when the frame is dropped, and the caller takes it off.
  refine .of_update (i := ret) ⟨.of_opcode rfl rfl rfl rfl,
    .ret rfl (Nat.zero_lt_succ _) rfl⟩ ?_
  refine .of_update (i := pop 8) ⟨.of_opcode rfl rfl rfl rfl,
    .pop (targets rfl rfl (by decide)) (Nat.zero_lt_succ _) rfl⟩ ?_
  exact h

theorem unrolls_call : Unrolls Program.fibonacciCall
    (fun x => x.r9 = .address Program.fibonacciEntry) 11 15 11 where
  index := rfl
  write q x v hx := ⟨{ x with r11 := v }, hx, rfl, rfl⟩
  code := by decide
  adds := by
    intro q x s lines n result w c hx hsum h
    refine ends_of_call hx (ends_of_return hsum rfl rfl ?_)
    exact h _ _ hx rfl
  fails := by
    intro q x s lines n e hx hsum
    refine ends_of_call hx ?_
    exact .of_refused (i := add 10 11 10) (.of_opcode rfl rfl rfl rfl)
      (Core.resolve_add_error ⟨10, rfl, rfl⟩ ⟨11, rfl, rfl⟩ hsum)

/-! ## The start of both programs -/

def opening : List Instruction := [
  loadGlobal 0 0,
  loadGlobal 1 1,
  store (.text question) 6,
  callMethod 0 [6] (some 7),
  store (.int 1) 2,
  store (.int 0) 3,
  store (.int 1) 4,
  store (.int 2) 5]

def asking : Registers :=
  (((Registers.ofCount 12).write 0 (.host 0)).write 1 (.host 1)).write 6 (.text question)

section Opening

variable {responses : List Value} (hcode : p.CodeAt 0 opening)
include hcode

theorem ends_of_opening
    (h : (machine p 3 asking ⟨responses, #[]⟩ #[] 3).Ends scripted result w) :
    (bootScripted {} p responses).Ends scripted result w := by
  show (machine p 0 (Registers.ofCount 12) ⟨responses, #[]⟩ #[] 0).Ends scripted result w
  refine ends_of_write ⟨executes (hcode.fetch? 0 rfl) rfl, .loadGlobal rfl
    (Nat.lt_of_lt_of_eq (by decide : 0 < 2) rfl) (targets rfl rfl (by decide))⟩ rfl ?_
  refine ends_of_write ⟨executes (hcode.fetch? 1 rfl) rfl, .loadGlobal rfl
    (Nat.lt_of_lt_of_eq (by decide : 1 < 2) rfl) (targets rfl rfl (by decide))⟩ rfl ?_
  exact ends_of_store (hcode.fetch? 2 rfl) rfl (by decide) h

theorem asks : (machine p 3 asking ⟨responses, #[]⟩ #[] 3).Performs (callMethod 0 [6] (some 7))
    .callMethod (.invoke 0 [.text question] (some 7)) := by
  refine ⟨executes (hcode.fetch? 3 rfl) rfl, .callMethod (w := 0) ⟨0, rfl, rfl⟩ rfl ?_⟩
  rintro _ ⟨⟩
  exact Nat.lt_of_lt_of_eq (by decide : 7 < 12) rfl

theorem ends_of_no_answer : (bootScripted {} p []).Ends scripted
    (.error (.host promptName "script exhausted")) (world ⟨[], #[question]⟩ #[]) :=
  ends_of_opening hcode (.of_invoke_error (asks hcode) rfl rfl)

theorem ends_of_answer {v : Value}
    (h : (machine p 8 (registers (.start v) {}) ⟨responses, #[question]⟩ #[] 8).Ends scripted
      result w) : (bootScripted {} p (v :: responses)).Ends scripted result w := by
  refine ends_of_opening hcode (.of_invoke (asks hcode) rfl rfl ?_)
  show (machine p 4 (asking.write 7 v) ⟨responses, #[question]⟩ #[] 4).Ends scripted result w
  refine ends_of_store (hcode.fetch? 4 rfl) rfl (by decide) ?_
  refine ends_of_store (hcode.fetch? 5 rfl) rfl (by decide) ?_
  refine ends_of_store (hcode.fetch? 6 rfl) rfl (by decide) ?_
  exact ends_of_store (hcode.fetch? 7 rfl) rfl (by decide) h

end Opening

theorem opening_loop : Program.fibonacciLoop.CodeAt 0 opening := by decide

theorem opening_call : Program.fibonacciCall.CodeAt 0 opening := by decide

section Whole

variable {v : Value} {cs : List Int64} (h : Rounds (.start v) cs result) (responses : List Value)
include h

theorem ends_loop : (bootScripted {} Program.fibonacciLoop (v :: responses)).Ends scripted result
    (world ⟨responses, #[question]⟩ (printed #[] (0 :: 1 :: cs))) := by
  refine ends_of_answer opening_loop ?_
  -- The first two numbers are printed before the first round.
  refine ends_of_print (t := 3) rfl rfl (ends_of_print (t := 4) rfl rfl ?_)
  exact unrolls_loop.ends h trivial

theorem ends_call : (bootScripted {} Program.fibonacciCall (v :: responses)).Ends scripted result
    (world ⟨responses, #[question]⟩ (printed #[] (0 :: 1 :: cs))) := by
  refine ends_of_answer opening_call ?_
  refine ends_of_write (i := store (.address Program.fibonacciEntry) 9)
    (y := registers (.start v) { r9 := .address Program.fibonacciEntry })
    ⟨.of_opcode rfl rfl rfl rfl, .store rfl (targets rfl rfl (by decide))⟩ rfl ?_
  refine ends_of_print (t := 3) rfl rfl (ends_of_print (t := 4) rfl rfl ?_)
  exact unrolls_call.ends h rfl

end Whole

theorem exists_ends (responses : List Value) : ∃ result s lines,
    (∀ reason, result = .ok reason → reason = .exit) ∧
    (bootScripted {} Program.fibonacciLoop responses).Ends scripted result (world s lines) ∧
    (bootScripted {} Program.fibonacciCall responses).Ends scripted result (world s lines) := by
  cases responses with
  | nil =>
      refine ⟨_, _, _, ?_, ends_of_no_answer opening_loop, ends_of_no_answer opening_call⟩
      rintro reason ⟨⟩
  | cons v responses =>
      rcases exists_rounds (.start v) (Int.le_refl 0) Int.zero_lt_one with ⟨cs, result, h⟩
      refine ⟨result, _, _, ?_, ends_loop h responses, ends_call h responses⟩
      rintro reason rfl
      exact h.eq_exit

/-- Whatever the responses, a run of either program ends, and both come to the same: the same
halt or the same error, the same questions, the same responses left and the same lines. And
unless it fails, the program with the subroutine has returned from every call and has left
nothing on the data stack. -/
theorem call_agrees_with_loop (responses : List Value) :
    ∃ (r r' : Except Error Report) (t t' : Machine (Standard Script) Transcript) (s : Script)
      (out : Transcript),
      (bootScripted {} Program.fibonacciLoop responses).Returns scripted r t ∧
      (bootScripted {} Program.fibonacciCall responses).Returns scripted r' t' ∧
      t.world = ⟨table s, out⟩ ∧ t'.world = ⟨table s, out⟩ ∧
      r.map Report.halt = r'.map Report.halt ∧
      ∀ report, r' = .ok report → report.halt = .exit ∧
        t'.core.calls.depth = 0 ∧ t'.core.fp = 0 ∧ t'.core.stack.size = 0 := by
  rcases exists_ends responses with ⟨result, s, lines, hexit, hloop, hcall⟩
  rcases hloop with ⟨r, t, hreturns, hr, hworld, -⟩
  rcases hcall with ⟨r', t', hreturns', hr', hworld', hclean⟩
  refine ⟨r, r', t, t', s, _, hreturns, hreturns', hworld, hworld', hr.trans hr'.symm, ?_⟩
  rintro report rfl
  exact ⟨hexit _ hr'.symm, hclean _ hr'.symm⟩

end RegisterMachine.Fibonacci
