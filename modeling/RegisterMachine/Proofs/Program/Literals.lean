import RegisterMachine.Proofs.Program.Wording

/-!
# The values of fields, in range or not

The readers of words and operands take an integer of any size exactly, or they fail. An
operand is read whole before it is looked at, so that its integer is first a number of the
text, and only then a signed word or an address.
-/

namespace RegisterMachine

open Json (Token Settles IsItem intTokens listTokens recordTokens toOption_bind toOption_map
  toOption_mapError)

namespace Instruction

variable {α : Type}

theorem settles_defect {item : List Token → Except Json.Defect (α × List Token)} {vs : List Token}
    {o : Option α} (h : Settles item vs o) : Settles (fun ts => defect (item ts)) vs o := by
  intro ts
  exact (toOption_mapError _ _).trans (h ts)

theorem settles_readWord (n : Int) : Settles readWord (intTokens n) (Text.toWord? n) := by
  have hnext : ∀ (found : Json.Shape) (ts : List Token),
      (mismatch (found.toWord .size) >>= fun w => Except.ok (w, ts)).toOption =
        (found.toWord .size).toOption.map (·, ts) := by
    intro found ts
    rw [toOption_bind, mismatch, toOption_mapError]
    cases found.toWord .size with
    | error e => rfl
    | ok w => rfl
  have hword : (Json.Shape.toWord .size (.number (.int n))).toOption = Text.toWord? n := by
    rw [Json.Shape.toWord]
    cases Text.toWord? n with
    | none => rfl
    | some w => rfl
  have hvalue : ((Json.Numeral.ofInt n).value?.map Json.Shape.number).bind
      (fun found => (found.toWord .size).toOption) = Text.toWord? n := by
    rw [Option.bind_map, ← hword]
    exact Json.Numeral.bind_value?_ofInt (fun _ => rfl)
      fun hn => hword.trans (Text.toWord?_of_beyond hn)
  have hsettles := (settles_defect (Json.settles_head_number (.ofInt n))).bind hnext
  rwa [hvalue] at hsettles

theorem settles_readArgs {fuel : Nat} {ns : List Int} (hfuel : ns.length ≤ fuel) :
    Settles (readArgs fuel) (listTokens (ns.map intTokens)) (ns.mapM Text.toWord?) := by
  intro ts
  have hitems : ∀ n ∈ ns, IsItem (intTokens n) ∧ Settles readWord (intTokens n) (Text.toWord? n) :=
    fun n _ => ⟨⟨_, _, rfl, nofun⟩, settles_readWord n⟩
  obtain ⟨us, hus, hread⟩ := Json.readList_settles LoadError.defect hitems hfuel ts
  rw [hus]
  exact hread

/-- Where null would do, any other value is taken as before. -/
theorem settles_readOptional {read : List Token → Except LoadError (α × List Token)}
    {vs : List Token} {o : Option α} (h : Settles read vs o)
    (hvs : ∃ t us, vs = t :: us ∧ t ≠ .null) : Settles (readOptional read) vs (o.map some) := by
  obtain ⟨t, us, rfl, ht⟩ := hvs
  intro ts
  have hread : readOptional read (t :: (us ++ ts)) =
      (read (t :: (us ++ ts))).map fun r => (some r.1, r.2) := by
    rw [readOptional]
    exact fun _ heq => ht (List.cons.inj heq).1
  rw [List.cons_append, hread, toOption_map, ← List.cons_append, h ts, Option.map_map,
    Option.map_map]
  rfl

theorem settles_readTarget (o : Option Int) :
    Settles (readOptional readWord) (o.elim [.null] intTokens) (o.mapM Text.toWord?) := by
  cases o with
  | none => exact fun _ => rfl
  | some n => exact settles_readOptional (settles_readWord n) ⟨_, _, rfl, nofun⟩

/-! ## Operands -/

/-- An operand is what the value makes that stands for it. -/
theorem settles_readOperand_of {fuel room : Nat} {vs : List Token} {o : Option Json}
    (h : Settles (Json.read fuel room) vs o) :
    Settles (readOperand fuel room) vs (o.bind Operand.ofJson?) := by
  intro ts
  rw [readOperand, toOption_bind, settles_defect h ts]
  cases o with
  | none => rfl
  | some v =>
      simp only [Option.map_some, Option.bind_some]
      cases Operand.ofJson? v with
      | none => rfl
      | some o => rfl

/-- The address of a record is the one behind its key. -/
theorem ofJson?_address {before after : List (String × Json)} (n : Number)
    (hkeys : ∀ f ∈ before ++ after, f.1 ≠ "addr") :
    Operand.ofJson? (.record (before ++ ("addr", .number n) :: after)) =
      Operand.addressOf? [("addr", .number n)] := by
  have hfilter : ∀ fields : List (String × Json), (∀ f ∈ fields, f.1 ≠ "addr") →
      fields.filter (fun f => f.1 == "addr") = [] := by
    intro fields h
    rw [List.filter_eq_nil_iff]
    intro f hf
    rw [beq_iff_eq]
    exact h f hf
  rw [List.forall_mem_append] at hkeys
  rw [Operand.ofJson?, Operand.addressOf?, List.filter_append, List.filter_cons_of_pos (by simp),
    hfilter before hkeys.1, hfilter after hkeys.2]
  rfl

/-- An integer is read as an operand exactly, or not at all. -/
theorem settles_readInt {fuel room : Nat} (n : Int) :
    Settles (readOperand fuel room) (intTokens n) ((Text.toInt64? n).map .int) := by
  have hbeyond : ¬(Text.minInt64 ≤ n ∧ n ≤ Text.maxWord) →
      Operand.ofJson? (.number (.int n)) = none := by
    intro hn
    rw [Operand.ofJson?, Text.toInt64?_of_beyond hn, Option.map_none]
  have hvalue : ((Json.Numeral.ofInt n).value?.map Json.number).bind Operand.ofJson? =
      (Text.toInt64? n).map .int := by
    rw [Option.bind_map]
    exact Json.Numeral.bind_value?_ofInt (fun _ => rfl) hbeyond
  have hsettles := settles_readOperand_of (@Json.settles_number fuel room (.ofInt n))
  rwa [hvalue] at hsettles

theorem settles_readAddress {fuel room : Nat} {n : Int}
    {before after : List (String × List Token × Json)}
    (hkeys : ∀ m ∈ before ++ after, m.1 ≠ "addr")
    (h : ∀ m ∈ before ++ after, Settles (Json.read fuel room) m.2.1 (some m.2.2))
    (hfuel : (before ++ after).length < fuel) :
    Settles (readOperand fuel (room + 1))
      (recordTokens ((before.map fun m => (.text m.1, m.2.1)) ++
        (.text "addr", intTokens n) :: after.map fun m => (.text m.1, m.2.1)))
      ((Text.toWord? n).map .address) := by
  have hbeyond : ¬(Text.minInt64 ≤ n ∧ n ≤ Text.maxWord) →
      Operand.addressOf? [("addr", .number (.int n))] = none := by
    intro hn
    show (Text.toWord? n).map Operand.address = none
    rw [Text.toWord?_of_beyond hn, Option.map_none]
  have haddress : ∀ x : Number,
      Operand.ofJson? (.record ((before.map fun m => (m.1, m.2.2)) ++ ("addr", .number x) ::
        after.map fun m => (m.1, m.2.2))) = Operand.addressOf? [("addr", .number x)] := by
    intro x
    apply ofJson?_address
    rw [← List.map_append, List.forall_mem_map]
    exact hkeys
  have hvalue : (((Json.Numeral.ofInt n).value?.map Json.number).map fun v =>
      Json.record ((before.map fun m => (m.1, m.2.2)) ++ ("addr", v) ::
        after.map fun m => (m.1, m.2.2))).bind Operand.ofJson? =
          (Text.toWord? n).map .address := by
    rw [Option.map_map, Option.bind_map]
    refine Eq.trans (congrArg _ (funext haddress)) ?_
    exact Json.Numeral.bind_value?_ofInt (fun _ => rfl) hbeyond
  have hsettles := settles_readOperand_of (Json.settles_record_around (k := "addr")
    (@Json.settles_number fuel room (.ofInt n)) h hfuel)
  rwa [hvalue] at hsettles

theorem settles_readOperand {r : Operand.Wording} {vs : List Token} (h : r.Tokens vs) {fuel : Nat}
    (hfuel : vs.length ≤ fuel) :
    Settles (readOperand fuel operandDepth) vs r.toOperand? := by
  cases h with
  | int n => exact settles_readInt n
  | bool b =>
      exact settles_readOperand_of (Json.settles_token (v := .bool b) (fun _ => rfl) nofun nofun)
  | text s =>
      exact settles_readOperand_of (Json.settles_token (v := .text s) (fun _ => rfl) nofun nofun)
  | @address n before after hkeys h =>
      obtain ⟨hlength, hlt⟩ := Json.lt_recordTokens ((before.map fun m => (.text m.1, m.2.1)) ++
        (.text "addr", intTokens n) :: after.map fun m => (.text m.1, m.2.1))
      rw [List.length_append, List.length_cons, List.length_map, List.length_map] at hlength
      rw [List.forall_mem_append, List.forall_mem_cons, List.forall_mem_map,
        List.forall_mem_map] at hlt
      refine settles_readAddress hkeys ?_ (by rw [List.length_append]; omega)
      intro m hm
      have hlt : m.2.1.length < _ := (List.mem_append.mp hm).elim (hlt.1 m) (hlt.2.2 m)
      exact (h m hm).settles (Nat.le_trans (Nat.le_of_lt hlt) hfuel)

theorem settles_readOptionalOperand {o : Option Operand.Wording} {vs : List Token}
    (h : Operand.Wording.OptionalTokens o vs) {fuel : Nat} (hfuel : vs.length ≤ fuel) :
    Settles (readOptional (readOperand fuel operandDepth)) vs
      (o.mapM Operand.Wording.toOperand?) := by
  cases h with
  | null => exact fun _ => rfl
  | operand h =>
      refine settles_readOptional (settles_readOperand h hfuel) ?_
      cases h with
      | int | bool | text | address => exact ⟨_, _, rfl, nofun⟩

end Instruction

end RegisterMachine
