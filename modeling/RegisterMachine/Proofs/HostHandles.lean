import RegisterMachine.Host.Standard
import RegisterMachine.Proofs.Step

/-!
# Handles stay valid

Host functions are added, looked up and called in any order, with handles that are valid or not,
and calls may fail. `World.after` is the world after such requests. The handle of a function is the
number of functions that were added before it, and from then on it leads to that function, with the
memory that the function's own calls have left, whatever else was asked for in between. An index
that no function has yet leads nowhere, and asking for it changes nothing.

All functions share the sink, so a call is given the sink as it finds it (`World.calls`). Where
nothing comes back through the sink (`Environment.Separate`), a function answers its calls as if it
were alone.

What one request does to the function at an index is `World.functions_serve`, and what a sequence
of them does follows by induction.
-/

namespace RegisterMachine

variable {α τ : Type}

namespace World

/-! ## Requests -/

/-- What a world is asked to do with its host functions, by a machine or by who builds it: to add
one, to look one up, or to call one. -/
inductive Request (α : Type)
  | register (f : HostFunction α)
  | add (f : HostFunction α)
  | resolve (index : Nat)
  | name (index : Nat)
  | invoke (index : Nat) (args : List Value)

inductive Answer
  | handle (result : Except Error Nat)
  | added
  | name (name : Option String)
  | reply (reply : Reply)

def Request.function? : Request α → Option (HostFunction α)
  | .register f => some f
  | .add f => some f
  | _ => none

def Request.args? (index : Nat) : Request α → Option (List Value)
  | .invoke i args => if i = index then some args else none
  | _ => none

def added (rs : List (Request α)) : List (HostFunction α) := rs.filterMap Request.function?

def serve (E : Environment α τ) (w : World α τ) : Request α → Answer × World α τ
  | .register f =>
    let (handle, hosts) := w.hosts.register f
    (.handle (.ok handle), { w with hosts := hosts })
  | .add f => (.added, { w with hosts := w.hosts.add f })
  | .resolve index => (.handle (w.hosts.resolve index), w)
  | .name index => (.name (w.hosts.name? index), w)
  | .invoke index args =>
    let response := w.invoke E index args
    (.reply response.result, response.world)

def after (E : Environment α τ) (w : World α τ) (rs : List (Request α)) : World α τ :=
  rs.foldl (fun w r => (w.serve E r).2) w

theorem after_cons (E : Environment α τ) (w : World α τ) (r : Request α) (rs : List (Request α)) :
    w.after E (r :: rs) = (w.serve E r).2.after E rs := rfl

theorem after_append (E : Environment α τ) (w : World α τ) (rs ss : List (Request α)) :
    w.after E (rs ++ ss) = (w.after E rs).after E ss :=
  List.foldl_append

/-- The calls of the function at an index among requests: the arguments of each, and the sink as
the call finds it. -/
def calls (E : Environment α τ) (index : Nat) :
    World α τ → List (Request α) → List (List Value × τ)
  | _, [] => []
  | w, r :: rs => (r.args? index).toList.map (·, w.sink) ++ calls E index (w.serve E r).2 rs

end World

/-- The memory that calls leave, the earliest first. Each call has found a sink of its own, which is
therefore listed with its arguments. -/
def Environment.left (E : Environment α τ) (memory : α) (calls : List (List Value × τ)) : α :=
  calls.foldl (fun memory call => (E.call call.1 memory call.2).2.1) memory

namespace World

/-! ## The number of functions -/

theorem size_serve (E : Environment α τ) (w : World α τ) (r : Request α) :
    (w.serve E r).2.hosts.size = w.hosts.size + r.function?.toList.length := by
  cases r with
  | register f => simp [serve, Request.function?]
  | add f => simp [serve, Request.function?]
  | resolve index => rfl
  | name index => rfl
  | invoke index args => exact size_invoke E w index args

theorem size_after (E : Environment α τ) (w : World α τ) (rs : List (Request α)) :
    (w.after E rs).hosts.size = w.hosts.size + (added rs).length := by
  induction rs generalizing w with
  | nil => rfl
  | cons r rs ih =>
      rw [after_cons, ih, size_serve, added, added]
      cases hr : r.function? with
      | none => simp [hr]
      | some f =>
          simp [hr]
          omega

/-! ## The function at an index -/

/-- A call changes the memory of the function called, and no other function. -/
theorem functions_invoke (E : Environment α τ) (w : World α τ) (i index : Nat)
    (args : List Value) :
    (w.invoke E i args).world.hosts.functions[index]? =
      if i = index then
        w.hosts.functions[index]?.map fun f =>
          { f with memory := (E.call args f.memory w.sink).2.1 }
      else w.hosts.functions[index]? := by
  cases hf : w.hosts.functions[i]? with
  | none =>
      simp only [invoke, hf]
      by_cases h : i = index
      · subst h
        simp [hf]
      · rw [if_neg h]
  | some f =>
      simp only [invoke, hf, HostTable.remember, Array.getElem?_modify]
      by_cases h : i = index
      · subst h
        simp [hf]
      · rw [if_neg h, if_neg h]

theorem functions_add {t : HostTable α} {index : Nat} {g : HostFunction α}
    (h : t.functions[index]? = some g) (f : HostFunction α) :
    (t.add f).functions[index]? = some g := by
  have hlt : index < t.functions.size := (Array.getElem?_eq_some_iff.mp h).1
  rw [HostTable.add, Array.getElem?_push, if_neg (Nat.ne_of_lt hlt), h]

/-- What one request does to the function at an index: only a call of that function changes it,
and only its memory. -/
theorem functions_serve {E : Environment α τ} {w : World α τ} {index : Nat} {g : HostFunction α}
    (h : w.hosts.functions[index]? = some g) (r : Request α) :
    (w.serve E r).2.hosts.functions[index]? =
      some { g with memory := E.left g.memory ((r.args? index).toList.map (·, w.sink)) } := by
  cases r with
  | register f =>
      simp only [serve, HostTable.register_eq]
      exact functions_add h f
  | add f => exact functions_add h f
  | resolve i => exact h
  | name i => exact h
  | invoke i args =>
      simp only [serve, functions_invoke, Request.args?]
      by_cases hi : i = index
      · simp [hi, h, Environment.left]
      · simp [hi, h, Environment.left]

/-- A sequence of requests leaves the function at an index where it is, with its name, and with
the memory that its own calls leave. -/
theorem functions_after {E : Environment α τ} {w : World α τ} {index : Nat} {g : HostFunction α}
    (h : w.hosts.functions[index]? = some g) (rs : List (Request α)) :
    (w.after E rs).hosts.functions[index]? =
      some { g with memory := E.left g.memory (w.calls E index rs) } := by
  induction rs generalizing w g with
  | nil => exact h
  | cons r rs ih =>
      rw [after_cons, ih (functions_serve h r), calls, Environment.left, Environment.left,
        Environment.left, List.foldl_append]

/-- A function that is added is found at the next index. -/
theorem functions_of_added (E : Environment α τ) (w : World α τ) {r : Request α}
    {f : HostFunction α} (hr : r.function? = some f) :
    (w.serve E r).2.hosts.functions[w.hosts.size]? = some f := by
  have hadd : (w.hosts.add f).functions[w.hosts.size]? = some f := by
    rw [HostTable.add, HostTable.size, Array.getElem?_push, if_pos rfl]
  cases r with
  | register g =>
      cases hr
      simp only [serve, HostTable.register_eq]
      exact hadd
  | add g =>
      cases hr
      exact hadd
  | _ => cases hr

/-! ## Where an index leads -/

/-- An index leads to a function that was added with this name and this memory, and has had these
calls since. -/
structure Leads (E : Environment α τ) (w : World α τ) (index : Nat) (f : HostFunction α)
    (calls : List (List Value × τ)) : Prop where
  resolve : w.hosts.resolve index = .ok index
  name : w.hosts.name? index = some f.name
  reply : ∀ args, (w.invoke E index args).result =
    (E.call args (E.left f.memory calls) w.sink).1
  sink : ∀ args, (w.invoke E index args).world.sink =
    (E.call args (E.left f.memory calls) w.sink).2.2

/-- An index leads nowhere, and a call of it leaves the world as it is. -/
structure LeadsNowhere (E : Environment α τ) (w : World α τ) (index : Nat) : Prop where
  resolve : w.hosts.resolve index = .error (.unknownHostFunction index)
  name : w.hosts.name? index = none
  invoke : ∀ args, w.invoke E index args = ⟨.error (.unknownHostFunction index), w, []⟩

theorem leads_of_functions {E : Environment α τ} {w : World α τ} {index : Nat}
    {f : HostFunction α} {calls : List (List Value × τ)}
    (h : w.hosts.functions[index]? = some { f with memory := E.left f.memory calls }) :
    w.Leads E index f calls := by
  have hlt : index < w.hosts.size := (Array.getElem?_eq_some_iff.mp h).1
  refine ⟨?_, ?_, ?_, ?_⟩
  · rw [HostTable.resolve, if_pos hlt]
  · rw [HostTable.name?, h, Option.map_some]
  · intro args
    simp only [invoke, h]
  · intro args
    simp only [invoke, h]

theorem leadsNowhere_of_size_le (E : Environment α τ) {w : World α τ} {index : Nat}
    (h : w.hosts.size ≤ index) : w.LeadsNowhere E index := by
  have hnone : w.hosts.functions[index]? = none := Array.getElem?_eq_none h
  refine ⟨?_, ?_, ?_⟩
  · rw [HostTable.resolve, if_neg (Nat.not_lt.mpr h)]
  · rw [HostTable.name?, hnone, Option.map_none]
  · intro args
    simp only [invoke, hnone]

end World

/-! ## Functions that share nothing -/

/-- Nothing comes back through the sink, which is all that host functions share: what a call
replies and what it remembers depend on the arguments and on the memory only. -/
structure Environment.Separate (E : Environment α τ) : Prop where
  reply : ∀ args memory sink sink', (E.call args memory sink).1 = (E.call args memory sink').1
  memory : ∀ args memory sink sink',
    (E.call args memory sink).2.1 = (E.call args memory sink').2.1

theorem Environment.Separate.left {E : Environment α τ} (hE : E.Separate) (memory : α)
    (calls : List (List Value × τ)) (sink : τ) :
    E.left memory (calls.map fun call => (call.1, sink)) = E.left memory calls := by
  induction calls generalizing memory with
  | nil => rfl
  | cons call calls ih =>
      have hfirst := hE.memory call.1 memory sink call.2
      show E.left (E.call call.1 memory sink).2.1 _ = E.left (E.call call.1 memory call.2).2.1 _
      rw [hfirst]
      exact ih _

namespace World

/-- The arguments of the calls are those of the requests. -/
theorem map_calls (E : Environment α τ) (w : World α τ) (index : Nat) (rs : List (Request α))
    (sink : τ) :
    (w.calls E index rs).map (fun call => (call.1, sink)) =
      (rs.filterMap (Request.args? index)).map (·, sink) := by
  induction rs generalizing w with
  | nil => rfl
  | cons r rs ih =>
      rw [calls, List.map_append, ih]
      cases hr : r.args? index with
      | none => simp [hr]
      | some args => simp [hr]

/-! ## Validity -/

def bare (sink : τ) : World α τ := ⟨{}, sink⟩

theorem size_after_bare (E : Environment α τ) (sink : τ) (rs : List (Request α)) :
    ((bare sink).after E rs).hosts.size = (added rs).length := by
  rw [size_after]
  exact Nat.zero_add _

/-- The function that a request adds is found at the number of functions before it, from then
on. -/
theorem leads_after_bare (E : Environment α τ) (sink : τ) (before since : List (Request α))
    {r : Request α} {f : HostFunction α} (hr : r.function? = some f) :
    ((bare sink).after E (before ++ r :: since)).Leads E (added before).length f
      (((bare sink).after E (before ++ [r])).calls E (added before).length since) := by
  have hopened : ((bare sink).after E (before ++ [r])).hosts.functions[(added before).length]? =
      some f := by
    rw [after_append, after_cons, ← size_after_bare E sink before]
    exact functions_of_added E _ hr
  -- The requests are cut behind the one that adds the function: up to there its calls do not count.
  have hsplit : before ++ r :: since = (before ++ [r]) ++ since := by simp
  rw [hsplit, after_append]
  exact leads_of_functions (functions_after hopened since)

/-- However the host functions of a world are added, looked up and called, the handle of a
function is the number of functions before it. From then on it is resolved, it has the name that
the function was added with, and a call of it goes to that function, with the memory that its own
calls have left. If the functions share nothing, the reply is the one that the function gives alone,
whatever happens to the others. An index that no function has yet leads nowhere. -/
theorem handles_stay_valid (E : Environment α τ) (sink : τ) (before : List (Request α)) :
    (∀ f, (((bare sink).after E before).serve E (.register f)).1 =
      .handle (.ok (added before).length)) ∧
    (∀ r f since, r.function? = some f →
      ((bare sink).after E (before ++ r :: since)).Leads E (added before).length f
        (((bare sink).after E (before ++ [r])).calls E (added before).length since)) ∧
    (E.Separate → ∀ r f since, r.function? = some f → ∀ args sink',
      (((bare sink).after E (before ++ r :: since)).invoke E (added before).length args).result =
        (E.call args (E.left f.memory
          ((since.filterMap (Request.args? (added before).length)).map (·, sink'))) sink').1) ∧
    ∀ index, (added before).length ≤ index →
      ((bare sink).after E before).LeadsNowhere E index := by
  refine ⟨?_, ?_, ?_, ?_⟩
  · intro f
    simp only [serve, HostTable.register_eq, size_after_bare]
  · intro r f since hr
    exact leads_after_bare E sink before since hr
  · intro hE r f since hr args sink'
    rw [(leads_after_bare E sink before since hr).reply,
      ← map_calls E ((bare sink).after E (before ++ [r])), hE.left]
    exact hE.reply _ _ _ _
  · intro index hindex
    rw [← size_after_bare E sink before] at hindex
    exact leadsNowhere_of_size_le E hindex

/-- A console and a printer share nothing that comes back. On a terminal they would share its
outages. -/
theorem separate_console : Standard.console.Separate := by
  constructor
  · intro args memory sink sink'
    cases memory <;> rfl
  · intro args memory sink sink'
    cases memory <;> rfl

def twoLines : HostFunction (Standard Console) := ⟨"ask", .input { input := ⟨[55, 10, 56, 10]⟩ }⟩

def beforeTwoLines : List (Request (Standard Console)) :=
  [.add ⟨printName, .printer⟩, .invoke 4 []]

def sinceTwoLines : List (Request (Standard Console)) :=
  [.invoke 1 [.text "?"], .invoke 0 [.number 3], .invoke 9 [], .add ⟨printName, .printer⟩,
    .resolve 3]

/-- The second call of the console finds the second line. -/
theorem handles_stay_valid_twoLines :
    Standard.console.Separate ∧
    (((bare {}).after Standard.console beforeTwoLines).serve Standard.console
      (.register twoLines)).1 = .handle (.ok 1) ∧
    ((bare {}).after Standard.console
      (beforeTwoLines ++ .register twoLines :: sinceTwoLines)).hosts.name? 1 = some "ask" ∧
    (((bare {}).after Standard.console
      (beforeTwoLines ++ .register twoLines :: sinceTwoLines)).invoke Standard.console 1
      []).result = .ok (some (.number 8)) ∧
    ((bare {}).after Standard.console beforeTwoLines).LeadsNowhere Standard.console 1 := by
  obtain ⟨hhandle, hleads, hreply, hnowhere⟩ :=
    handles_stay_valid Standard.console {} beforeTwoLines
  have hname := (hleads (.register twoLines) twoLines sinceTwoLines rfl).name
  have hsecond := hreply separate_console (.register twoLines) twoLines sinceTwoLines rfl [] {}
  exact ⟨separate_console, hhandle twoLines, hname, hsecond, hnowhere 1 (Nat.le_refl 1)⟩

end World

end RegisterMachine
