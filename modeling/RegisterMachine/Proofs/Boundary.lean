import Mathlib.Data.List.Forall2
import RegisterMachine.Program.Samples
import RegisterMachine.Proofs.Fault
import RegisterMachine.Proofs.Halting

/-!
# What crosses the boundary

A step exchanges at most one thing with the world: it prints a line, or it calls a host function
and is given a reply. `Machine.exchanges` lists what a run has exchanged, and
`Machine.exchange?_eq_some_iff` says what an exchange is in terms of the registers that the
instruction names, as they are when it is executed.

Against that list the world can be audited. With input from a script and output to a transcript,
`Accounts` is the balance: what the script has given and what it still holds are all that it held,
its record of questions grows by those that were asked, and the transcript by the lines that were
printed, by either of the two ways to print. Balances add up along a run, since each step leaves
one (`World.Change.accounts`).
-/

namespace RegisterMachine

variable {α τ : Type}

/-- A line that was printed, or a call of the host function at a place and what it came to. -/
inductive Exchange
  | printed (line : String)
  | called (host : Nat) (args : List Value) (reply : Reply)

theorem Core.gather_eq_ok_iff (c : Core) (ws : List UInt64) (vs : List Value) :
    c.gather ws = .ok vs ↔ List.Forall₂ (fun w v => c.registers.get w.toNat = .ok v) ws vs := by
  induction ws generalizing vs with
  | nil => simp [gather, eq_comm]
  | cons w ws ih =>
      simp only [gather, bind_eq_ok_iff, Except.ok.injEq, List.forall₂_cons_left_iff, ih]
      constructor
      · rintro ⟨v, hv, vs', hvs, rfl⟩
        exact ⟨v, vs', hv, hvs, rfl⟩
      · rintro ⟨v, vs', hv, hvs, rfl⟩
        exact ⟨v, hv, vs', hvs, rfl⟩

namespace Machine

/-- What the next step exchanges with the world. A line that the sink refuses is not printed,
and a place that the table does not have is not called. -/
def exchange? (E : Environment α τ) (m : Machine α τ) : Option Exchange :=
  match m.resolution? with
  | some (.ok (.print line)) =>
    match (E.writeLine line m.world.sink).1 with
    | .ok () => some (.printed line)
    | .error _ => none
  | some (.ok (.invoke host args _)) =>
    m.world.hosts.functions[host]?.map fun f =>
      .called host args (E.call args f.memory m.world.sink).1
  | _ => none

def exchanges (E : Environment α τ) (m : Machine α τ) : Nat → List Exchange
  | 0 => []
  | n + 1 => m.exchanges E n ++ ((m.after E n).exchange? E).toList

/-- The next instruction prints the register that it names, or calls the host function whose
handle it names with the registers in its arguments, in their order. -/
inductive Exchanged (E : Environment α τ) (m : Machine α τ) : Exchange → Prop
  | printed {i : Instruction} {v : Value} (h : m.Prints i v)
      (hw : (E.writeLine v.display m.world.sink).1 = .ok ()) :
      Exchanged E m (.printed v.display)
  | called {i : Instruction} {host : UInt64} {args : List Value} {f : HostFunction α}
      (h : m.Calls i host)
      (hargs : List.Forall₂ (fun w v => m.core.registers.get w.toNat = .ok v) i.args args)
      (hf : m.world.hosts.functions[host.toNat]? = some f) :
      Exchanged E m (.called host.toNat args (E.call args f.memory m.world.sink).1)

theorem Performs.gathers {m : Machine α τ} {i : Instruction} {op : Opcode} {host : Nat}
    {args : List Value} {target : Option Nat} (hp : m.Performs i op (.invoke host args target)) :
    m.core.gather i.args = .ok args := by
  cases hp.resolves with
  | callMethod _ hargs _ => rwa [gather_advance] at hargs

theorem Calls.performs_of_args {m : Machine α τ} {i : Instruction} {host : UInt64}
    {args : List Value} (h : m.Calls i host)
    (hargs : List.Forall₂ (fun w v => m.core.registers.get w.toNat = .ok v) i.args args) :
    m.Performs i .callMethod (.invoke host.toNat args (i.target.map UInt64.toNat)) := by
  rcases h.performs with ⟨args', hargs', hp⟩
  rw [(Core.gather_eq_ok_iff _ _ _).mpr hargs] at hargs'
  cases hargs'
  exact hp

theorem exchange?_eq_some_iff (E : Environment α τ) (m : Machine α τ) (x : Exchange) :
    m.exchange? E = some x ↔ m.Exchanged E x := by
  constructor
  · intro h
    unfold exchange? at h
    split at h
    · next line hr =>
        rcases (resolution?_eq_some_iff m _).mp hr with ⟨i, op, hx, he⟩
        have hp : m.Performs i op (.print line) := ⟨hx, .of_resolve he⟩
        rcases hp.of_print with ⟨v, rfl, rfl, hv⟩
        split at h
        · next hw =>
            cases h
            exact .printed ⟨hx, hv⟩ hw
        · cases h
    · next host args target hr =>
        rcases (resolution?_eq_some_iff m _).mp hr with ⟨i, op, hx, he⟩
        have hp : m.Performs i op (.invoke host args target) := ⟨hx, .of_resolve he⟩
        rcases Option.map_eq_some_iff.mp h with ⟨f, hf, rfl⟩
        have hargs := hp.gathers
        rcases hp.of_invoke with ⟨w, rfl, rfl, hcalls⟩
        have hinside : w.toNat < m.world.hosts.size := (Array.getElem?_eq_some_iff.mp hf).1
        exact .called (hcalls hinside) ((Core.gather_eq_ok_iff _ _ _).mp hargs) hf
    · cases h
  · intro h
    cases h with
    | printed h hw => simp only [exchange?, h.performs.resolution?, hw]
    | called h hargs hf =>
        simp only [exchange?, (h.performs_of_args hargs).resolution?, hf, Option.map_some]

end Machine

/-- How a world changes by an exchange, or without one: a line that the sink refuses is no exchange,
but may have changed the sink. -/
inductive World.Change (E : Environment α τ) (w : World α τ) : List Exchange → World α τ → Prop
  | silent : Change E w [] w
  | printed (line : String) (h : (E.writeLine line w.sink).1 = .ok ()) :
      Change E w [.printed line] (w.writeLine E line).world
  | unprinted (line : String) {e : Error} (h : (E.writeLine line w.sink).1 = .error e) :
      Change E w [] (w.writeLine E line).world
  | called {host : Nat} {f : HostFunction α} (args : List Value)
      (hf : w.hosts.functions[host]? = some f) :
      Change E w [.called host args (E.call args f.memory w.sink).1] (w.invoke E host args).world

namespace Machine

section Step

variable {E : Environment α τ} {m : Machine α τ} {o : Outcome α τ}

/-- A call that crosses the boundary is that of the next instruction, and the reply is what the
step comes to. -/
theorem Exchanged.performs {host : Nat} {args : List Value} {reply : Reply}
    (h : m.Exchanged E (.called host args reply)) :
    ∃ i, m.Performs i .callMethod (.invoke host args (i.target.map UInt64.toNat)) ∧
      (m.world.invoke E host args).result = reply := by
  cases h with
  | called h hargs hf =>
      refine ⟨_, h.performs_of_args hargs, ?_⟩
      simp only [World.invoke, hf]

/-- What is delivered is in the register that it was asked for. -/
theorem Exchanged.get_target {host : Nat} {args : List Value} {v : Value}
    (h : m.Exchanged E (.called host args (.ok (some v)))) {i : Instruction} {t : UInt64}
    (hc : m.current? = some i) (ht : i.target = some t) :
    (m.step E).machine.core.registers.get t.toNat = .ok v := by
  rcases h.performs with ⟨i', hp, hw⟩
  have hi : i' = i := Option.some.inj (hp.current.symm.trans hc)
  subst hi
  have hlt : t.toNat < m.advance.core.registers.count := by
    cases hp.resolves with
    | callMethod _ _ htarget => exact htarget t ht
  rw [step_of_invoke hp hw, ht]
  exact Registers.get_write_self hlt v

theorem exchange?_eq_none (h : m.resolution? = none) : m.exchange? E = none := by
  simp only [exchange?, h]

/-- A host call changes the world by the call, or by nothing if the place is not there. -/
theorem Performs.change {i : Instruction} {op : Opcode} {host : Nat} {args : List Value}
    {target : Option Nat} (hp : m.Performs i op (.invoke host args target)) :
    World.Change E m.world (m.exchange? E).toList (m.world.invoke E host args).world := by
  simp only [exchange?, hp.resolution?]
  cases hf : m.world.hosts.functions[host]? with
  | some f => exact .called args hf
  | none =>
      simp only [World.invoke, hf]
      exact .silent

theorem Transition.change (ht : Transition E m o) :
    World.Change E m.world (m.exchange? E).toList o.machine.world := by
  cases ht with
  | halted hs =>
      rw [exchange?_eq_none (by simp [resolution?, hs])]
      exact .silent
  | ended hs hc =>
      rw [exchange?_eq_none (by simp [resolution?, hc])]
      exact .silent
  | spent hs hc hb =>
      rw [exchange?_eq_none (by simp [resolution?, hb])]
      exact .silent
  | undecoded hs hc hb hd =>
      rw [exchange?_eq_none (by simp [resolution?, hc, hd, Except.toOption])]
      exact .silent
  | refused hx he =>
      simp only [exchange?, (resolution?_eq_some_iff m _).mpr ⟨_, _, hx, he⟩]
      exact .silent
  | updated hp | exited hp =>
      simp only [exchange?, hp.resolution?]
      exact .silent
  | printed hp hw =>
      have hok : (E.writeLine _ m.world.sink).1 = .ok () := hw
      simp only [exchange?, hp.resolution?, hok]
      exact .printed _ hok
  | unprinted hp hw =>
      have herror : (E.writeLine _ m.world.sink).1 = .error _ := hw
      simp only [exchange?, hp.resolution?, herror]
      exact .unprinted _ herror
  | invoked hp _ | uninvoked hp _ => exact hp.change

end Step

end Machine

/-! ## A script and a transcript -/

namespace Exchange

/-- What a call of the function at place 0 gave, if it succeeded. -/
def delivered? : Exchange → Option (Option Value)
  | .called 0 _ (.ok reply) => some reply
  | _ => none

/-- What a call of the function at place 0 asked: its first argument. -/
def prompt? : Exchange → Option String
  | .called 0 args _ => args.head?.map Value.display
  | _ => none

/-- The line that an exchange adds to the output: what is printed, or the arguments of the
function at place 1, with a blank between them. -/
def line? : Exchange → Option String
  | .printed line => some line
  | .called 1 args _ => some (String.intercalate " " (args.map Value.display))
  | _ => none

end Exchange

/-- The balance of exchanges with a script and a transcript, from one state of theirs to
another. -/
structure Accounts (xs : List Exchange) (s : Script) (t : Transcript) (s' : Script)
    (t' : Transcript) : Prop where
  responses : s.responses.map some =
    xs.filterMap Exchange.delivered? ++ s'.responses.map some
  prompts : s'.prompts.toList = s.prompts.toList ++ xs.filterMap Exchange.prompt?
  lines : t'.lines.toList = t.lines.toList ++ xs.filterMap Exchange.line?

theorem Accounts.refl (s : Script) (t : Transcript) : Accounts [] s t s t :=
  ⟨rfl, (List.append_nil _).symm, (List.append_nil _).symm⟩

theorem Accounts.trans {xs ys : List Exchange} {s s' s'' : Script} {t t' t'' : Transcript}
    (h : Accounts xs s t s' t') (h' : Accounts ys s' t' s'' t'') :
    Accounts (xs ++ ys) s t s'' t'' := by
  refine ⟨?_, ?_, ?_⟩
  · rw [h.responses, h'.responses, List.filterMap_append, List.append_assoc]
  · rw [h'.prompts, h.prompts, List.filterMap_append, List.append_assoc]
  · rw [h'.lines, h.lines, List.filterMap_append, List.append_assoc]

/-- What has been delivered is a first part of the responses, and the rest is what is left. -/
theorem Accounts.delivered {xs : List Exchange} {s s' : Script} {t t' : Transcript}
    (h : Accounts xs s t s' t') : ∃ j ≤ s.responses.length,
      xs.filterMap Exchange.delivered? = (s.responses.take j).map some ∧
      s'.responses = s.responses.drop j := by
  rcases List.map_eq_append_iff.mp h.responses with ⟨given, left, hsplit, hgiven, hleft⟩
  have hrest : left = s'.responses := List.map_injective_iff.mpr (fun _ _ => Option.some.inj) hleft
  refine ⟨given.length, ?_, ?_, ?_⟩
  · rw [hsplit, List.length_append]
    exact Nat.le_add_right _ _
  · rw [hsplit, List.take_left, hgiven]
  · rw [hsplit, List.drop_left, hrest]

namespace Script

theorem prompts_ask (args : List Value) (s : Script) :
    (s.ask args).prompts.toList = s.prompts.toList ++ (args.head?.map Value.display).toList := by
  unfold ask question?
  cases args.head?.map Value.display with
  | none => simp
  | some q => simp

theorem responses_ask (args : List Value) (s : Script) : (s.ask args).responses = s.responses := by
  unfold ask
  split
  · rfl
  · rfl

theorem call_of_nil {s : Script} (h : s.responses = []) (args : List Value) :
    s.call args = (.error (.host promptName "script exhausted"), s.ask args) := by
  simp only [call, responses_ask, h]

theorem call_of_cons {s : Script} {v : Value} {rest : List Value} (h : s.responses = v :: rest)
    (args : List Value) : s.call args = (.ok (some v), { s.ask args with responses := rest }) := by
  simp only [call, responses_ask, h]

/-- A call gives the first response away, if there is one, and records the question in any
case. -/
theorem accounts_call (args : List Value) (s : Script) (t : Transcript) :
    Accounts [.called 0 args (s.call args).1] s t (s.call args).2 t := by
  cases h : s.responses with
  | nil =>
      rw [call_of_nil h]
      refine ⟨?_, prompts_ask args s, (List.append_nil _).symm⟩
      rw [responses_ask]
      rfl
  | cons v rest =>
      rw [call_of_cons h]
      refine ⟨?_, prompts_ask args s, (List.append_nil _).symm⟩
      rw [h]
      rfl

end Script

namespace Transcript

/-- A line that is printed, in whichever way, is the only change. -/
theorem accounts_push {x : Exchange} {line : String} (hline : x.line? = some line)
    (hdelivered : x.delivered? = none) (hprompt : x.prompt? = none) (s : Script)
    (t : Transcript) : Accounts [x] s t s ⟨t.lines.push line⟩ := by
  refine ⟨?_, ?_, ?_⟩
  · simp [hdelivered]
  · simp [hprompt]
  · simp [hline]

end Transcript

namespace Standard

theorem invoke_input (args : List Value) (s : Script) (t : Transcript) :
    (World.invoke scripted ⟨table s, t⟩ 0 args).world = ⟨table (s.call args).2, t⟩ := rfl

theorem invoke_printer (args : List Value) (s : Script) (t : Transcript) :
    (World.invoke scripted ⟨table s, t⟩ 1 args).world =
      ⟨table s, ⟨t.lines.push (printedLine args)⟩⟩ := rfl

/-- The standard table has two places. -/
theorem functions_eq_some {s : Script} {host : Nat} {f : HostFunction (Standard Script)}
    (h : (table s).functions[host]? = some f) :
    host = 0 ∧ f = ⟨promptName, .input s⟩ ∨ host = 1 ∧ f = ⟨printName, .printer⟩ := by
  match host, h with
  | 0, h => exact .inl ⟨rfl, (Option.some.inj h).symm⟩
  | 1, h => exact .inr ⟨rfl, (Option.some.inj h).symm⟩
  | host + 2, h => cases h

end Standard

/-- Every change of the world by a step leaves a balance. -/
theorem World.Change.accounts {s : Script} {t : Transcript} {xs : List Exchange}
    {w' : World (Standard Script) Transcript}
    (h : Change Standard.scripted ⟨Standard.table s, t⟩ xs w') :
    ∃ s' t', w' = ⟨Standard.table s', t'⟩ ∧ Accounts xs s t s' t' := by
  cases h with
  | silent => exact ⟨s, t, rfl, .refl s t⟩
  | printed line _ =>
      exact ⟨s, _, rfl, Transcript.accounts_push (x := .printed line) rfl rfl rfl s t⟩
  | unprinted line h => cases h
  | called args hf =>
      rcases Standard.functions_eq_some hf with ⟨rfl, rfl⟩ | ⟨rfl, rfl⟩
      · rw [Standard.invoke_input]
        exact ⟨_, t, rfl, s.accounts_call args t⟩
      · rw [Standard.invoke_printer]
        exact ⟨s, _, rfl, Transcript.accounts_push rfl rfl rfl s t⟩

namespace Machine

theorem accounts_after {m : Machine (Standard Script) Transcript} {s : Script} {t : Transcript}
    (hw : m.world = ⟨Standard.table s, t⟩) (n : Nat) :
    ∃ s' t', (m.after Standard.scripted n).world = ⟨Standard.table s', t'⟩ ∧
      Accounts (m.exchanges Standard.scripted n) s t s' t' := by
  induction n with
  | zero => exact ⟨s, t, hw, .refl s t⟩
  | succ n ih =>
      rcases ih with ⟨s', t', hworld, haccounts⟩
      have hchange := (transition_step Standard.scripted (m.after Standard.scripted n)).change
      rw [hworld] at hchange
      rcases hchange.accounts with ⟨s'', t'', hworld', haccounts'⟩
      exact ⟨s'', t'', hworld', haccounts.trans haccounts'⟩

def bootScripted (config : Config) (p : Program) (responses : List Value) :
    Machine (Standard Script) Transcript :=
  boot config p ⟨Standard.table { responses := responses }, {}⟩

/-- A call of the script comes to what the script answers. -/
theorem Exchanged.reply_eq {m : Machine (Standard Script) Transcript} {s : Script}
    {t : Transcript} (hw : m.world = ⟨Standard.table s, t⟩) {args : List Value} {reply : Reply}
    (h : m.Exchanged Standard.scripted (.called 0 args reply)) : reply = (s.call args).1 := by
  rcases h.performs with ⟨i, -, hreply⟩
  rw [hw] at hreply
  exact hreply.symm

open Standard in
/-- At every point of every run, with input from a script and output to a transcript: the calls
of the script that have succeeded have delivered its first responses, in their order, and the
others are still there; its questions are the first arguments of the calls that had one; and the
lines of the transcript are what was printed, by instructions and by calls of the function that
prints, in the order of their execution. A call of the script fails only if all responses have
been delivered, and then it is the last thing that the machine does. -/
theorem exchanges_accounted (config : Config) (p : Program) (responses : List Value) (n : Nat) :
    ∃ (s : Script) (t : Transcript) (j : Nat),
      ((bootScripted config p responses).after scripted n).world = ⟨table s, t⟩ ∧
      j ≤ responses.length ∧
      ((bootScripted config p responses).exchanges scripted n).filterMap Exchange.delivered? =
        (responses.take j).map some ∧
      s.responses = responses.drop j ∧ s.responses.length = responses.length - j ∧
      s.prompts.toList =
        ((bootScripted config p responses).exchanges scripted n).filterMap Exchange.prompt? ∧
      t.lines.toList =
        ((bootScripted config p responses).exchanges scripted n).filterMap Exchange.line? ∧
      (∀ x, ((bootScripted config p responses).after scripted n).exchange? scripted = some x ↔
        ((bootScripted config p responses).after scripted n).Exchanged scripted x) ∧
      ∀ args reply, ((bootScripted config p responses).after scripted n).exchange? scripted =
          some (.called 0 args reply) →
        (∀ r, reply = .ok r → ∃ v, responses[j]? = some v ∧ r = some v ∧
          ∀ i target, ((bootScripted config p responses).after scripted n).current? = some i →
            i.target = some target →
            ((bootScripted config p responses).after scripted (n + 1)).core.registers.get
              target.toNat = .ok v) ∧
        ∀ e, reply = .error e → j = responses.length ∧
          ((bootScripted config p responses).after scripted (n + 1)).status = .halted .fault ∧
          ∀ k, (bootScripted config p responses).after scripted (n + 1 + k) =
            (bootScripted config p responses).after scripted (n + 1) := by
  rcases accounts_after (m := bootScripted config p responses) rfl n with
    ⟨s, t, hworld, haccounts⟩
  rcases haccounts.delivered with ⟨j, hj, hdelivered, hleft⟩
  have hleft : s.responses = responses.drop j := hleft
  refine ⟨s, t, j, hworld, hj, hdelivered, hleft, ?_, ?_, ?_, exchange?_eq_some_iff _ _, ?_⟩
  · rw [hleft, List.length_drop]
  · exact haccounts.prompts
  · exact haccounts.lines
  intro args reply hx
  have hcalled := (exchange?_eq_some_iff _ _ _).mp hx
  have hreply := hcalled.reply_eq hworld
  have hnext : s.responses.head? = responses[j]? := by rw [hleft, List.head?_drop]
  cases hs : s.responses with
  | nil =>
      rw [Script.call_of_nil hs] at hreply
      subst hreply
      refine ⟨by rintro r ⟨⟩, ?_⟩
      intro e _
      rcases hcalled.performs with ⟨i, hp, hw⟩
      have herror := congrArg Outcome.result (step_of_invoke_error hp hw)
      have hfault := halted_of_error herror
      refine ⟨?_, hfault, ?_⟩
      · exact Nat.le_antisymm hj (List.drop_eq_nil_iff.mp (hleft.symm.trans hs))
      · intro k
        rw [after_add]
        exact after_of_halted hfault k
  | cons v rest =>
      rw [Script.call_of_cons hs] at hreply
      subst hreply
      refine ⟨?_, by rintro e ⟨⟩⟩
      rintro r ⟨⟩
      refine ⟨v, ?_, rfl, ?_⟩
      · rw [← hnext, hs]
        rfl
      · intro i target hc ht
        exact hcalled.get_target hc ht

-- The sample asks once and prints once, in that order.
example : (bootScripted {} Program.sign [.number (-3)]).exchanges Standard.scripted 12 =
    [.called 0 [.text "Enter a number: "] (.ok (some (.number (-3)))),
      .called 1 [.text "Is a negative number"] (.ok none)] := rfl

end Machine

end RegisterMachine
