import RegisterMachine.Proofs.Json.Layout
import RegisterMachine.Proofs.Program.Literals
import RegisterMachine.Proofs.Program.Spelling

/-!
# Integers of every size in a program

Whatever integers a text has at the places of integers, it is loaded exactly if each of them
is in the range of its place, and then the program holds them as they are.

`Instruction.Wording.put` is what reading a field does to a draft: it adds what the text
says of the field, or fails. Both forms of an instruction come down to putting fields one
after the other, in the order of the text. If every integer is in range, the drafts are those
of the instruction with that wording (`Draft.of`); if one is not, its field has no default,
so it is put at some point, and that fails whatever the draft is.
-/

namespace RegisterMachine

open Json (Token Settles SettlesField IsItem Means intTokens listTokens recordTokens
  toOption_bind)

namespace Instruction

/-! ## Fields -/

namespace Wording

def put (r : Wording) (d : Draft) : Slot → Option Draft
  | .opcode => some { d with opcode := some r.opcode }
  | .arg1 => (r.arg1.mapM Operand.Wording.toOperand?).map fun o => { d with arg1 := some o }
  | .arg2 => (r.arg2.mapM Operand.Wording.toOperand?).map fun o => { d with arg2 := some o }
  | .target => (r.target.mapM Text.toWord?).map fun t => { d with target := some t }
  | .args => (r.args.mapM Text.toWord?).map fun args => { d with args := some args }
  | .argCount => (Text.toWord? r.argCount).map fun n => { d with argCount := some n }

variable {r : Wording}

theorem SlotTokens.settles {slot : Slot} {vs : List Token} (h : r.SlotTokens slot vs) {fuel : Nat}
    (hfuel : vs.length ≤ fuel) (d : Draft) : Settles (readSlot fuel d slot) vs (r.put d slot) := by
  cases h with
  | opcode => exact fun _ => rfl
  | arg1 h => exact (settles_readOptionalOperand h hfuel).map fun o => { d with arg1 := some o }
  | arg2 h => exact (settles_readOptionalOperand h hfuel).map fun o => { d with arg2 := some o }
  | target => exact (settles_readTarget r.target).map fun t => { d with target := some t }
  | args =>
      have hlength := (Json.lt_listTokens (r.args.map intTokens)).1
      rw [List.length_map] at hlength
      exact (settles_readArgs (Nat.le_trans (Nat.le_of_lt hlength) hfuel)).map
        fun args => { d with args := some args }
  | argCount => exact (settles_readWord r.argCount).map fun n => { d with argCount := some n }

/-- A field is put into a draft exactly if its integers are in range. -/
theorem put_eq_none_iff {d : Draft} {slot : Slot} : r.put d slot = none ↔ ¬r.InRange slot := by
  cases slot with
  | opcode => simp [put, InRange]
  | arg1 =>
      rw [put, Option.map_eq_none_iff]
      exact optionMapM_eq_none_iff Operand.Wording.toOperand?_eq_none_iff
  | arg2 =>
      rw [put, Option.map_eq_none_iff]
      exact optionMapM_eq_none_iff Operand.Wording.toOperand?_eq_none_iff
  | target =>
      rw [put, Option.map_eq_none_iff]
      exact optionMapM_eq_none_iff Text.toWord?_eq_none_iff
  | args =>
      rw [put, Option.map_eq_none_iff]
      exact listMapM_eq_none_iff Text.toWord?_eq_none_iff
  | argCount =>
      rw [put, Option.map_eq_none_iff]
      exact Text.toWord?_eq_none_iff

/-- A field that is put into a draft has been met then, as have been those before it. -/
theorem has_put {d d' : Draft} {slot : Slot} (h : r.put d slot = some d') (other : Slot) :
    d'.has other = (d.has other || decide (other = slot)) := by
  cases slot with
  | opcode =>
      cases h
      cases other <;> simp [Draft.has]
  | _ =>
      obtain ⟨v, -, rfl⟩ := Option.map_eq_some_iff.mp h
      cases other <;> simp [Draft.has]

/-- The fields of an instruction are put into a draft as they are. -/
theorem put_wording (i : Instruction) (met : List Slot) (slot : Slot) :
    i.wording.put (.of i met) slot = some (.of i (slot :: met)) := by
  have hoperand : ∀ o : Option Operand,
      (o.map Operand.wording).mapM Operand.Wording.toOperand? = some o :=
    fun o => (optionMapM_eq_some_iff Operand.Wording.toOperand?_eq_some_iff).mpr rfl
  have htarget : (i.target.map fun t => (t.toNat : Int)).mapM Text.toWord? = some i.target :=
    (optionMapM_eq_some_iff Text.toWord?_eq_some_iff).mpr rfl
  have hargs : (i.args.map fun a => (a.toNat : Int)).mapM Text.toWord? = some i.args :=
    (listMapM_eq_some_iff Text.toWord?_eq_some_iff).mpr rfl
  cases slot with
  | opcode => simp [put, wording, Draft.of]
  | arg1 => simp [put, wording, hoperand, Draft.of]
  | arg2 => simp [put, wording, hoperand, Draft.of]
  | target => simp [put, wording, htarget, Draft.of]
  | args => simp [put, wording, hargs, Draft.of]
  | argCount => simp [put, wording, Draft.of]

theorem foldlM_put_wording (i : Instruction) (slots met : List Slot) :
    slots.foldlM i.wording.put (.of i met) = some (.of i (slots.reverse ++ met)) := by
  induction slots generalizing met with
  | nil => rfl
  | cons slot slots ih =>
      rw [List.foldlM_cons, put_wording, Option.bind_eq_bind, Option.bind_some, ih,
        List.reverse_cons, List.append_assoc]
      rfl

theorem foldlM_put_eq_none {slots : List Slot} {slot : Slot} (hmem : slot ∈ slots)
    (h : ¬r.InRange slot) (d : Draft) : slots.foldlM r.put d = none := by
  induction slots generalizing d with
  | nil => exact absurd hmem List.not_mem_nil
  | cons other slots ih =>
      rw [List.foldlM_cons]
      rcases List.mem_cons.mp hmem with rfl | hmem
      · rw [put_eq_none_iff.mpr h]
        rfl
      · cases r.put d other with
        | none => rfl
        | some d' => exact ih hmem d'

/-- Whichever order its fields are put into a draft, the result is the instruction of the
wording. -/
theorem foldlM_put {slots : List Slot} (h : ∀ slot, slot ∈ slots ∨ r.IsDefault slot) :
    ((slots.foldlM r.put {}).bind fun d => d.finish.toOption) = r.toInstruction? := by
  cases hr : r.toInstruction? with
  | some i =>
      cases toInstruction?_eq_some_iff.mp hr
      have hmet : ∀ slot, slot ∈ slots.reverse ++ [] ∨ i.IsDefault slot := by
        intro slot
        rw [List.append_nil, List.mem_reverse]
        exact (h slot).imp_right (isDefault_wording i slot).mp
      rw [← Draft.of_nil i, foldlM_put_wording, Option.bind_some, Draft.finish_of hmet]
      rfl
  | none =>
      -- A field out of range is not a default, so it is among those that are put.
      obtain ⟨slot, hslot⟩ := Classical.not_forall.mp (toInstruction?_eq_none_iff.mp hr)
      have hmem : slot ∈ slots := (h slot).resolve_right fun hdefault => hslot hdefault.inRange
      rw [foldlM_put_eq_none hmem hslot]
      rfl

/-! ## The record form -/

/-- A member of the record form, put into a draft: a field must not have been met, and any other
key is passed over. -/
def step (r : Wording) (d : Draft) (m : String × List Token) : Option Draft :=
  match Slot.ofName? m.1 with
  | some slot => if d.has slot then none else r.put d slot
  | none => some d

theorem Member.settlesField {m : String × List Token} (h : r.Member m) {fuel : Nat}
    (hfuel : m.2.length ≤ fuel) :
    SettlesField (readField fuel) Prod.fst Prod.snd r.step m := by
  intro d ts
  cases h with
  | @field slot vs h =>
      show (readField fuel d slot.name (.colon :: (vs ++ ts))).toOption = _
      cases hhas : d.has slot with
      | true =>
          simp only [readField, step, Slot.ofName?_name, hhas, if_true]
          rfl
      | false =>
          rw [readField_name hhas, h.settles hfuel d ts]
          simp only [step, Slot.ofName?_name, hhas, Bool.false_eq_true, if_false]
  | unknown hk hvs =>
      rw [readField_unknown hk hvs, step, Slot.ofName?_eq_none_iff.mpr hk]
      rfl

def fieldSlots (keys : List String) : List Slot := keys.filterMap Slot.ofName?

theorem mem_fieldSlots {keys : List String} {slot : Slot} :
    slot ∈ fieldSlots keys ↔ slot.name ∈ keys := by
  simp only [fieldSlots, List.mem_filterMap, Slot.ofName?_eq_some_iff, exists_eq_right']

/-- Members with no field twice are put into a draft as their fields are. -/
theorem foldlM_step {members : List (String × List Token)}
    (honce : ∀ slot : Slot, (members.map Prod.fst).count slot.name ≤ 1) {d : Draft}
    (hd : ∀ slot : Slot, slot.name ∈ members.map Prod.fst → d.has slot = false) :
    members.foldlM r.step d = (fieldSlots (members.map Prod.fst)).foldlM r.put d := by
  induction members generalizing d with
  | nil => rfl
  | cons m members ih =>
      have hrest : ∀ slot : Slot, (members.map Prod.fst).count slot.name ≤ 1 :=
        fun slot => Nat.le_trans List.count_le_count_cons (honce slot)
      have hunmet : ∀ slot : Slot, slot.name ∈ members.map Prod.fst → d.has slot = false :=
        fun slot hslot => hd slot (List.mem_cons_of_mem _ hslot)
      rw [List.foldlM_cons, step, fieldSlots, List.map_cons]
      cases hname : Slot.ofName? m.1 with
      | none =>
          rw [List.filterMap_cons_none hname]
          exact ih hrest hunmet
      | some slot =>
          have hkey : slot.name = m.1 := Slot.ofName?_eq_some_iff.mp hname
          rw [List.filterMap_cons_some hname, List.foldlM_cons]
          simp only [hd slot (by simp [hkey]), Bool.false_eq_true, if_false]
          cases hput : r.put d slot with
          | none => rfl
          | some d' =>
              refine ih hrest ?_
              intro other hother
              have hne : other ≠ slot := by
                rintro rfl
                have hcount := honce other
                rw [List.map_cons, ← hkey, List.count_cons_self] at hcount
                have hpos := List.count_pos_iff.mpr hother
                omega
              rw [has_put hput, hunmet other hother, decide_eq_false hne]
              rfl

/-! ## The list form -/

/-- The fields are put one behind the other. The last of all closes the list itself, and any
other may stop short of those that are left out. -/
theorem readSlots_settles {fuel : Nat} {m : Slot × List Token} {items : List (Slot × List Token)}
    {omitted : List Slot} (h : ∀ n ∈ m :: items, r.SlotTokens n.1 n.2 ∧ n.2.length ≤ fuel)
    (d : Draft) (ts : List Token) :
    (readSlots fuel (m.1 :: (items.map Prod.fst ++ omitted)) d
      (m.2 ++ ((items.map Prod.snd).flatMap (.comma :: ·) ++ .listClose :: ts))).toOption =
        ((m.1 :: items.map Prod.fst).foldlM r.put d).map (·, ts) := by
  obtain ⟨hm, hfuel⟩ := h m (by simp)
  have hread := hm.settles hfuel d
  rw [List.foldlM_cons]
  induction items generalizing m d with
  | nil =>
      cases omitted with
      | nil =>
          show (readSlots fuel [m.1] d (m.2 ++ .listClose :: ts)).toOption = _
          rw [readSlots, toOption_bind, hread]
          cases r.put d m.1 with
          | none => rfl
          | some d' => rfl
      | cons next omitted =>
          show (readSlots fuel (m.1 :: next :: omitted) d (m.2 ++ .listClose :: ts)).toOption = _
          rw [readSlots, toOption_bind, hread]
          · cases r.put d m.1 with
            | none => rfl
            | some d' => rfl
          · simp
  | cons n items ih =>
      have hrest : ∀ o ∈ n :: items, r.SlotTokens o.1 o.2 ∧ o.2.length ≤ fuel :=
        fun o ho => h o (List.mem_cons_of_mem _ ho)
      obtain ⟨hn, hlength⟩ := hrest n (by simp)
      have hnext := hn.isItem.listNext
        ((items.map Prod.snd).flatMap (.comma :: ·) ++ .listClose :: ts)
      simp only [List.map_cons, List.flatMap_cons, List.cons_append, List.append_assoc]
      rw [readSlots, toOption_bind, hread]
      · cases hput : r.put d m.1 with
        | none => rfl
        | some d' =>
            have hslots := ih hrest d' hn hlength (hn.settles hlength d')
            simp only [Option.map_some, Option.bind_some, hnext, defect_ok]
            exact hslots
      · simp

/-! ## Instructions -/

/-- What comes of a draft as soon as it is finished. -/
theorem toOption_finish {x : Except LoadError (Draft × List Token)} {o : Option Draft}
    {ts : List Token} (h : x.toOption = o.map (·, ts)) :
    (x >>= fun p => p.1.finish >>= fun i => .ok (i, p.2)).toOption =
      (o.bind fun d => d.finish.toOption).map (·, ts) := by
  rw [toOption_bind, h]
  cases o with
  | none => rfl
  | some d =>
      show (d.finish >>= fun i => .ok (i, ts)).toOption = d.finish.toOption.map (·, ts)
      rw [toOption_bind]
      cases d.finish with
      | error e => rfl
      | ok i => rfl

theorem IsRecord.settles {members : List (String × List Token)} (h : r.IsRecord members)
    {fuel : Nat}
    (hfuel : (recordTokens (members.map fun m => (.text m.1, m.2))).length ≤ fuel) :
    Settles (Instruction.read fuel) (recordTokens (members.map fun m => (.text m.1, m.2)))
      r.toInstruction? := by
  intro ts
  obtain ⟨hlength, hmembers⟩ := Json.lt_recordTokens (members.map fun m => (.text m.1, m.2))
  rw [List.length_map] at hlength
  rw [List.forall_mem_map] at hmembers
  have hread : ∀ m ∈ members, SettlesField (readField fuel) Prod.fst Prod.snd r.step m :=
    fun m hm => (h.member m hm).settlesField (Nat.le_trans (Nat.le_of_lt (hmembers m hm)) hfuel)
  obtain ⟨us, hus, hrecord⟩ := Json.readRecord_settles LoadError.defect hread
    (Nat.le_trans (Nat.le_of_lt hlength) hfuel) {} ts
  have hput : ∀ slot, slot ∈ fieldSlots (members.map Prod.fst) ∨ r.IsDefault slot := by
    intro slot
    rw [mem_fieldSlots]
    exact h.complete slot
  rw [foldlM_step h.once fun slot _ => by cases slot <;> rfl] at hrecord
  rw [hus, ← foldlM_put hput]
  exact toOption_finish hrecord

theorem settles_list {items : List (Slot × List Token)} {omitted : List Slot}
    (hall : items.map Prod.fst ++ omitted = Slot.all) (h : ∀ m ∈ items, r.SlotTokens m.1 m.2)
    (homitted : ∀ slot ∈ omitted, r.IsDefault slot) {fuel : Nat}
    (hfuel : (listTokens (items.map Prod.snd)).length ≤ fuel) :
    Settles (Instruction.read fuel) (listTokens (items.map Prod.snd)) r.toInstruction? := by
  intro ts
  have hput : ∀ slot, slot ∈ items.map Prod.fst ∨ r.IsDefault slot := by
    intro slot
    have hmem := slot.mem_all
    rw [← hall, List.mem_append] at hmem
    exact hmem.imp_right (homitted slot)
  have hitems : ∀ m ∈ items, r.SlotTokens m.1 m.2 ∧ m.2.length ≤ fuel := by
    intro m hm
    have hlt := (Json.lt_listTokens (items.map Prod.snd)).2 m.2 (List.mem_map_of_mem hm)
    exact ⟨h m hm, Nat.le_trans (Nat.le_of_lt hlt) hfuel⟩
  rw [← foldlM_put hput]
  cases items with
  | nil => exact ((hput .opcode).elim List.not_mem_nil id).elim
  | cons m items =>
      have hstart := (h m (by simp)).isItem.listStart
        ((items.map Prod.snd).flatMap (.comma :: ·) ++ .listClose :: ts)
      have hslots := @readSlots_settles r fuel m items omitted hitems {} ts
      rw [← List.cons_append, ← List.map_cons, hall] at hslots
      let further := (items.map Prod.snd).flatMap (.comma :: ·)
      have hform : (readListForm fuel (m.2 ++ (further ++ .listClose :: ts))).toOption =
          (((m :: items).map Prod.fst).foldlM r.put {}).map (·, ts) := by
        rw [readListForm, hstart]
        exact hslots
      have htokens : listTokens ((m :: items).map Prod.snd) ++ ts =
          .listOpen :: (m.2 ++ (further ++ .listClose :: ts)) := by
        simp [listTokens, Json.separated, further]
      rw [htokens]
      exact toOption_finish hform

/-- However it is spelled, a wording is read as its instruction, if there is one. -/
theorem Spelling.settles {vs : List Token} (h : r.Spelling vs) {fuel : Nat}
    (hfuel : vs.length ≤ fuel) : Settles (Instruction.read fuel) vs r.toInstruction? := by
  cases h with
  | record h => exact h.settles hfuel
  | list hall h homitted => exact settles_list hall h homitted hfuel

end Wording

end Instruction

/-! ## Programs -/

namespace Program

/-- The texts that say so much of the instructions of a program, whatever their spellings and
the layout. -/
inductive Spelling : List Instruction.Wording → String → Prop
  | mk {items : List (Instruction.Wording × List Token)} {s : String}
      (h : ∀ m ∈ items, m.1.Spelling m.2)
      (hs : Token.Layout (listTokens (items.map Prod.snd)) s.toList) :
      Spelling (items.map Prod.fst) s

theorem Spelling.toOption_ofText {rs : List Instruction.Wording} {s : String} (h : Spelling rs s) :
    (ofText s).toOption = (rs.mapM Instruction.Wording.toInstruction?).map ofList := by
  obtain @⟨items, s, h, hs⟩ := h
  let fuel := (listTokens (items.map Prod.snd)).length
  obtain ⟨hlength, hlt⟩ := Json.lt_listTokens (items.map Prod.snd)
  rw [List.length_map] at hlength
  have hitems : ∀ m ∈ items,
      IsItem m.2 ∧ Settles (Instruction.read fuel) m.2 m.1.toInstruction? := by
    intro m hm
    have hfuel := Nat.le_of_lt (hlt m.2 (List.mem_map_of_mem hm))
    exact ⟨(h m hm).isItem, (h m hm).settles hfuel⟩
  obtain ⟨us, hus, hread⟩ :=
    Json.readList_settles LoadError.defect hitems (Nat.le_of_lt hlength) []
  rw [List.append_nil] at hus
  have hhead : Json.head (listTokens (items.map Prod.snd)) = .ok (.list, us) := by
    rw [hus]
    rfl
  have hrs : items.mapM (fun m => m.1.toInstruction?) =
      (items.map Prod.fst).mapM Instruction.Wording.toInstruction? := by
    rw [List.mapM_map]
    rfl
  rw [ofText, Token.scan_layout hs, ofTokens, hhead]
  show (Json.readList LoadError.defect (Instruction.read fuel) fuel us >>= fun p =>
    Instruction.defect (Json.finish p.2) >>= fun _ => .ok (ofList p.1)).toOption = _
  rw [toOption_bind, hread, hrs]
  cases (items.map Prod.fst).mapM Instruction.Wording.toInstruction? with
  | none => rfl
  | some is => rfl

theorem Spelling.ofText_eq_ok_iff {rs : List Instruction.Wording} {s : String} (h : Spelling rs s)
    {p : Program} : ofText s = .ok p ↔ p.instructions.toList.map Instruction.wording = rs := by
  have hexact := @Instruction.listMapM_eq_some_iff _ _ _ _
    @Instruction.Wording.toInstruction?_eq_some_iff rs
  rw [← Json.toOption_eq_some_iff, h.toOption_ofText, Option.map_eq_some_iff]
  constructor
  · rintro ⟨is, his, rfl⟩
    exact hexact.mp his
  · intro hp
    exact ⟨p.instructions.toList, hexact.mpr hp, rfl⟩

theorem Spelling.ofText_eq_error_iff {rs : List Instruction.Wording} {s : String}
    (h : Spelling rs s) :
    (∃ e, ofText s = .error e) ↔ ¬∀ r ∈ rs, ∀ slot, r.InRange slot := by
  rw [← Json.toOption_eq_none_iff, h.toOption_ofText, Option.map_eq_none_iff]
  exact Instruction.listMapM_eq_none_iff Instruction.Wording.toInstruction?_eq_none_iff

/-- Whatever integers a text has at the places of integers, it is loaded exactly if each of
them is in the range of its place, and then the program holds them as they are. Otherwise
loading fails. So where all others are in range, a single integer decides. -/
theorem ofText_integers {rs : List Instruction.Wording} {s : String} (h : Spelling rs s) :
    ((∃ p, ofText s = .ok p) ↔ ∀ r ∈ rs, ∀ slot, r.InRange slot) ∧
      (∀ p, ofText s = .ok p ↔ p.instructions.toList.map Instruction.wording = rs) ∧
      ((¬∀ r ∈ rs, ∀ slot, r.InRange slot) → ∃ e : LoadError, ofText s = .error e) := by
  refine ⟨⟨?_, ?_⟩, fun p => h.ofText_eq_ok_iff, h.ofText_eq_error_iff.mpr⟩
  · rintro ⟨p, hp⟩ r hr
    rw [← h.ofText_eq_ok_iff.mp hp] at hr
    obtain ⟨i, -, rfl⟩ := List.mem_map.mp hr
    exact i.inRange_wording
  · intro hrange
    cases hload : ofText s with
    | error e => exact absurd hrange (h.ofText_eq_error_iff.mp ⟨e, hload⟩)
    | ok p => exact ⟨p, rfl⟩

/-! ## An integer of any size -/

namespace Extremes

/-- The least operand and the greatest words, and an integer as an address and in a list of
registers. -/
def wording (k : Int) : Instruction.Wording where
  opcode := "call_method"
  arg1 := some (.int (-2 ^ 63))
  arg2 := some (.address k)
  target := some (2 ^ 64 - 1)
  args := [0, k]

def items (k : Int) : List (Instruction.Slot × List Token) :=
  [(.opcode, [.text "call_method"]), (.arg1, intTokens (-2 ^ 63)),
    (.arg2, recordTokens [(.text "note", [.null]), (.text "addr", intTokens k)]),
    (.target, intTokens (2 ^ 64 - 1)), (.args, listTokens [intTokens 0, intTokens k])]

def text (k : Int) : String :=
  "[[\"call_method\",-9223372036854775808, \x7b\"note\":null,\"addr\":" ++ Text.ofInt k ++
    "\x7d,18446744073709551615,[0, " ++ Text.ofInt k ++ "]]]\n"

theorem isList (k : Int) :
    (wording k).Spelling (listTokens ((items k).map Prod.snd)) := by
  have hnote : Means (Instruction.operandDepth - 1) [.null] .null := .null
  have haddress := @Operand.Wording.Tokens.address k [("note", [.null], .null)] [] (by simp)
    (by simpa using hnote)
  refine @Instruction.Wording.Spelling.list _ _ [.argCount] rfl ?_ ?_
  · simp only [items, List.forall_mem_cons]
    exact ⟨.opcode, .arg1 (.operand (.int _)), .arg2 (.operand haddress), .target, .args, nofun⟩
  · simp [Instruction.Wording.IsDefault, wording]

theorem tokens_items (k : Int) :
    listTokens [listTokens ((items k).map Prod.snd)] =
      [.listOpen, .listOpen, .text "call_method", .comma, .number (.ofInt (-2 ^ 63)), .comma,
        .recordOpen, .text "note", .colon, .null, .comma, .text "addr", .colon,
        .number (.ofInt k), .recordClose, .comma, .number (.ofInt (2 ^ 64 - 1)), .comma, .listOpen,
        .number (.ofInt 0), .comma, .number (.ofInt k), .listClose, .listClose, .listClose] := rfl

theorem layout (k : Int) :
    Token.Layout (listTokens [listTokens ((items k).map Prod.snd)]) (text k).toList := by
  have hargs := Token.Layout.tight .listOpen nofun (.tight (.number (.int 0))
    (fun _ _ => Token.endsNumeral_comma _) (.tight .comma nofun (.blank (c := ' ') (by decide)
      (.tight (.number (.int k)) (fun _ _ => Token.endsNumeral_cons _ (by decide))
        (.tight .listClose nofun (.tight .listClose nofun (.tight .listClose nofun
          (.blank (c := '\n') (by decide) (.nil (List.forall_mem_nil _))))))))))
  have htarget := Token.Layout.tight (.number (.int (2 ^ 64 - 1)))
    (fun _ _ => Token.endsNumeral_comma _) (.tight .comma nofun hargs)
  have harg2 := Token.Layout.tight .recordOpen nofun (.tight (.plain "note" (by simp)) nofun
    (.tight .colon nofun (.tight .null nofun (.tight .comma nofun
      (.tight (.plain "addr" (by simp)) nofun (.tight .colon nofun
        (.tight (.number (.int k)) (fun _ _ => Token.endsNumeral_cons _ (by decide))
          (.tight .recordClose nofun (.tight .comma nofun htarget)))))))))
  have harg1 := Token.Layout.tight (.number (.int (-2 ^ 63)))
    (fun _ _ => Token.endsNumeral_comma _) (.tight .comma nofun
      (.blank (c := ' ') (by decide) harg2))
  have hall := Token.Layout.tight .listOpen nofun (.tight .listOpen nofun
    (.tight (.plain "call_method" (by simp)) nofun (.tight .comma nofun harg1)))
  rw [tokens_items]
  refine @Eq.subst _ (Token.Layout _) _ _ ?_ hall
  have hleast : Text.intDigits (-2 ^ 63) = "-9223372036854775808".toList := by decide +kernel
  have hgreatest : Text.intDigits (2 ^ 64 - 1) = "18446744073709551615".toList := by
    decide +kernel
  have hzero : Text.intDigits 0 = ['0'] := by decide +kernel
  unfold text
  rw [hleast, hgreatest, hzero]
  simp [Text.ofInt]

theorem spelling (k : Int) : Spelling [wording k] (text k) :=
  @Spelling.mk [(wording k, listTokens ((items k).map Prod.snd))] _ (by simpa using isList k)
    (layout k)

/-- The one integer that is left open decides. -/
theorem inRange_iff (k : Int) :
    (∀ r ∈ [wording k], ∀ slot, r.InRange slot) ↔ 0 ≤ k ∧ k < 2 ^ 64 := by
  rw [List.forall_mem_singleton]
  constructor
  · intro h
    exact h .args k (by simp [wording])
  · intro hk slot
    cases slot with
    | opcode => trivial
    | arg1 => simp [Instruction.Wording.InRange, Operand.Wording.InRange, wording]
    | arg2 => simpa [Instruction.Wording.InRange, Operand.Wording.InRange, wording] using hk
    | target => simp [Instruction.Wording.InRange, wording]
    | args => simpa [Instruction.Wording.InRange, wording] using hk
    | argCount => simp [Instruction.Wording.InRange, wording]

end Extremes

theorem ofText_integers_extremes :
    Spelling [Extremes.wording (2 ^ 64 - 1)] (Extremes.text (2 ^ 64 - 1)) ∧
      (∃ p, ofText (Extremes.text (2 ^ 64 - 1)) = .ok p ∧
        p.instructions.toList.map Instruction.wording = [Extremes.wording (2 ^ 64 - 1)]) ∧
      Spelling [Extremes.wording (2 ^ 64)] (Extremes.text (2 ^ 64)) ∧
      ∃ e, ofText (Extremes.text (2 ^ 64)) = .error e := by
  obtain ⟨hload, hexact, -⟩ := ofText_integers (Extremes.spelling (2 ^ 64 - 1))
  obtain ⟨-, -, hfail⟩ := ofText_integers (Extremes.spelling (2 ^ 64))
  obtain ⟨p, hp⟩ := hload.mpr ((Extremes.inRange_iff _).mpr (by decide))
  have hbeyond := hfail fun hrange => absurd ((Extremes.inRange_iff _).mp hrange) (by decide)
  exact ⟨Extremes.spelling _, ⟨p, hp, (hexact p).mp hp⟩, Extremes.spelling _, hbeyond⟩

end Program

end RegisterMachine
