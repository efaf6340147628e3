import RegisterMachine.Proofs.Json.Layout
import RegisterMachine.Proofs.Json.Skip
import RegisterMachine.Proofs.Program.Slots

/-!
# The spellings of an instruction

An instruction can be spelled in many ways. In the record form its fields come in any
order, those with their default may be left out, and keys that name no field may stand
between them with any value. In the list form the fields come in their fixed order, and a
run of defaults at the end may be left out. `Instruction.Spelling` says so in terms of
tokens, and `Token.Layout` how tokens are laid out as a text. Whatever the spelling and the
layout, the text is loaded as the instruction.

Both forms are read from field to field, and `Draft.of` is the invariant: the draft holds the
fields of the instruction that have been met, and no others.
-/

namespace RegisterMachine

open Json (Token IsValue Takes tokens listTokens recordTokens)

namespace Instruction

/-! ## Spellings -/

/-- A member of the record form: a field with its value, or a key that names no field with
any value. -/
inductive Member (i : Instruction) : String × List Token → Prop
  | field (slot : Slot) : Member i (slot.name, tokens (i.slotJson slot))
  | unknown {k : String} {ts : List Token} (hk : ∀ slot : Slot, slot.name ≠ k)
      (hts : IsValue ts) : Member i (k, ts)

/-- The members of a record that spells an instruction, in their order: no field stands there twice,
and only a field with its default value may be missing. -/
structure IsRecord (i : Instruction) (members : List (String × List Token)) : Prop where
  member : ∀ m ∈ members, i.Member m
  once : ∀ slot : Slot, (members.map Prod.fst).count slot.name ≤ 1
  complete : ∀ slot : Slot, slot.name ∈ members.map Prod.fst ∨ i.IsDefault slot

/-- The tokens that spell an instruction: a record, or a list of its fields of which the last ones
may be left out. -/
inductive Spelling (i : Instruction) : List Token → Prop
  | record {members : List (String × List Token)} (h : i.IsRecord members) :
      Spelling i (recordTokens (members.map fun m => (.text m.1, m.2)))
  | list {kept omitted : List Slot} (hall : kept ++ omitted = Slot.all)
      (h : ∀ slot ∈ omitted, i.IsDefault slot) :
      Spelling i (listTokens (kept.map fun slot => tokens (i.slotJson slot)))

/-! ## The record form -/

theorem readField_unknown {fuel : Nat} {d : Draft} {k : String} {vs : List Token}
    (hk : ∀ slot : Slot, slot.name ≠ k) (hvs : IsValue vs) (ts : List Token) :
    readField fuel d k (.colon :: (vs ++ ts)) = .ok (d, ts) := by
  have hname : Slot.ofName? k = none := by
    rw [Slot.ofName?, List.find?_eq_none]
    intro slot _
    rw [beq_iff_eq]
    exact hk slot
  simp only [readField, hname, Json.colon, Json.skipValue_append hvs, defect_ok, bind, Except.bind]

/-- The members are taken one by one, and those that are fields are added to what is
known. -/
theorem takes_members {i : Instruction} {fuel : Nat} {members : List (String × List Token)}
    (hmembers : ∀ m ∈ members, i.Member m) (hfuel : ∀ m ∈ members, m.2.length ≤ fuel)
    (honce : ∀ slot : Slot, (members.map Prod.fst).count slot.name ≤ 1) (met : List Slot)
    (hmet : ∀ slot ∈ met, slot.name ∉ members.map Prod.fst) :
    ∃ met', Takes (readField fuel) (.of i met) members (.of i met') ∧
      ∀ slot, slot ∈ met' ↔ slot.name ∈ members.map Prod.fst ∨ slot ∈ met := by
  induction members generalizing met with
  | nil => exact ⟨met, .nil, by simp⟩
  | cons m members ih =>
      have hrest : ∀ slot : Slot, (members.map Prod.fst).count slot.name ≤ 1 :=
        fun slot => Nat.le_trans List.count_le_count_cons (honce slot)
      have hread := ih (fun n hn => hmembers n (List.mem_cons_of_mem _ hn))
        (fun n hn => hfuel n (List.mem_cons_of_mem _ hn)) hrest
      have hlength := hfuel m (by simp)
      cases hmembers m (by simp) with
      | field slot =>
          have hslot : slot ∉ met := fun hmem => hmet slot hmem (by simp)
          -- The key does not come again, so what is known and what is to come stay apart.
          have hunmet : ∀ other ∈ slot :: met, other.name ∉ members.map Prod.fst := by
            intro other hother hkey
            rcases List.mem_cons.mp hother with rfl | hother
            · have hcount := honce other
              rw [List.map_cons, List.count_cons_self] at hcount
              have hpos := List.count_pos_iff.mpr hkey
              omega
            · exact hmet other hother (List.mem_cons_of_mem _ hkey)
          obtain ⟨met', htakes, hmet'⟩ := hread (slot :: met) hunmet
          refine ⟨met', .cons (readField_of hslot hlength) htakes, ?_⟩
          intro other
          rw [hmet', List.map_cons, List.mem_cons, List.mem_cons, Slot.name_inj]
          exact or_left_comm.trans or_assoc.symm
      | @unknown k vs hk hvs =>
          obtain ⟨met', htakes, hmet'⟩ := hread met
            fun other hother hkey => hmet other hother (List.mem_cons_of_mem _ hkey)
          refine ⟨met', .cons (readField_unknown hk hvs) htakes, ?_⟩
          intro other
          rw [hmet', List.map_cons, List.mem_cons, or_iff_right (hk other)]

theorem read_record {i : Instruction} {members : List (String × List Token)}
    (h : i.IsRecord members) {fuel : Nat}
    (hfuel : (recordTokens (members.map fun m => (.text m.1, m.2))).length ≤ fuel)
    (ts : List Token) :
    read fuel (recordTokens (members.map fun m => (.text m.1, m.2)) ++ ts) = .ok (i, ts) := by
  obtain ⟨hlength, hmembers⟩ := Json.lt_recordTokens (members.map fun m => (.text m.1, m.2))
  rw [List.length_map] at hlength
  rw [List.forall_mem_map] at hmembers
  have hle : ∀ m ∈ members, m.2.length ≤ fuel :=
    fun m hm => Nat.le_trans (Nat.le_of_lt (hmembers m hm)) hfuel
  obtain ⟨met, htakes, hmet⟩ := takes_members h.member hle h.once [] (by simp)
  rw [Draft.of_nil] at htakes
  obtain ⟨us, hus, hread⟩ := Json.readRecord_takes LoadError.defect htakes
    (Nat.le_trans (Nat.le_of_lt hlength) hfuel) ts
  have hfinish : (Draft.of i met).finish = .ok i := by
    apply Draft.finish_of
    intro slot
    rw [hmet slot, or_iff_left List.not_mem_nil]
    exact h.complete slot
  rw [hus]
  simp only [read, Json.head, defect_ok, bind, Except.bind, hread, hfinish]

/-! ## The list form -/

/-- The fields are read one behind the other. The last of all closes the list itself, and
any other may stop short of those that are left out. -/
theorem readSlots_of {i : Instruction} {fuel : Nat} {slot : Slot} {kept omitted : List Slot}
    (hfuel : ∀ other ∈ slot :: kept, (tokens (i.slotJson other)).length ≤ fuel) (met : List Slot)
    (ts : List Token) :
    readSlots fuel (slot :: (kept ++ omitted)) (.of i met)
        (tokens (i.slotJson slot) ++
          ((kept.map fun slot => tokens (i.slotJson slot)).flatMap (.comma :: ·) ++
            .listClose :: ts)) =
      .ok (.of i (kept.reverse ++ slot :: met), ts) := by
  induction kept generalizing slot met with
  | nil =>
      have hread := @readSlot_of i met slot fuel (hfuel slot (by simp)) (.listClose :: ts)
      cases omitted with
      | nil =>
          simp only [List.append_nil, List.map_nil, List.flatMap_nil, List.nil_append, readSlots,
            hread, bind, Except.bind]
          rfl
      | cons next omitted =>
          simp only [List.map_nil, List.flatMap_nil, List.nil_append, readSlots, hread,
            bind, Except.bind]
          rfl
  | cons next kept ih =>
      have hrest := ih (fun other hother => hfuel other (List.mem_cons_of_mem _ hother))
        (slot :: met)
      have hnext := Json.listNext_tokens (i.slotJson next)
        ((kept.map fun slot => tokens (i.slotJson slot)).flatMap (.comma :: ·) ++ .listClose :: ts)
      simp only [List.map_cons, List.flatMap_cons, List.cons_append, List.append_assoc, readSlots,
        readSlot_of (hfuel slot (by simp)), bind, Except.bind, hnext, defect_ok, if_true, hrest,
        List.reverse_cons, List.nil_append]

theorem read_list {i : Instruction} {kept omitted : List Slot} (hall : kept ++ omitted = Slot.all)
    (h : ∀ slot ∈ omitted, i.IsDefault slot) {fuel : Nat}
    (hfuel : (listTokens (kept.map fun slot => tokens (i.slotJson slot))).length ≤ fuel)
    (ts : List Token) :
    read fuel (listTokens (kept.map fun slot => tokens (i.slotJson slot)) ++ ts) =
      .ok (i, ts) := by
  have hkept : ∀ slot, slot ∈ kept ∨ i.IsDefault slot := by
    intro slot
    have hmem := slot.mem_all
    rw [← hall, List.mem_append] at hmem
    exact hmem.imp_right (h slot)
  cases kept with
  | nil => exact absurd ((hkept .opcode).resolve_left List.not_mem_nil) i.not_isDefault_opcode
  | cons slot kept =>
      have hle : ∀ other ∈ slot :: kept, (tokens (i.slotJson other)).length ≤ fuel := by
        have hlt := (Json.lt_listTokens ((slot :: kept).map fun slot => tokens (i.slotJson slot))).2
        rw [List.forall_mem_map] at hlt
        exact fun other hother => Nat.le_trans (Nat.le_of_lt (hlt other hother)) hfuel
      have hread := @readSlots_of i fuel slot kept omitted hle [] ts
      rw [← List.cons_append, hall, Draft.of_nil] at hread
      have hfinish : (Draft.of i (kept.reverse ++ [slot])).finish = .ok i := by
        apply Draft.finish_of
        intro other
        rw [← List.reverse_cons, List.mem_reverse]
        exact hkept other
      have hstart := Json.listStart_tokens (i.slotJson slot)
        ((kept.map fun slot => tokens (i.slotJson slot)).flatMap (.comma :: ·) ++ .listClose :: ts)
      simp only [listTokens, Json.separated, List.map_cons, List.cons_append, List.append_assoc,
        List.nil_append, read, Json.head, defect_ok, bind, Except.bind, readListForm, hstart,
        if_true, hread, hfinish]

/-! ## Instructions and programs -/

/-- However it is spelled, an instruction is read as such. -/
theorem Spelling.read {i : Instruction} {vs : List Token} (h : i.Spelling vs) {fuel : Nat}
    (hfuel : vs.length ≤ fuel) (ts : List Token) :
    Instruction.read fuel (vs ++ ts) = .ok (i, ts) := by
  cases h with
  | record h => exact read_record h hfuel ts
  | list hall h => exact read_list hall h hfuel ts

theorem Spelling.listStart {i : Instruction} {vs : List Token} (h : i.Spelling vs)
    (ts : List Token) : Json.listStart (vs ++ ts) = .ok (true, vs ++ ts) := by
  cases h with
  | record h => rfl
  | list hall h => rfl

theorem Spelling.readList {i : Instruction} {vs : List Token} (h : i.Spelling vs) {fuel : Nat}
    (hfuel : vs.length ≤ fuel) (more : Nat) (ts : List Token) :
    Json.readList LoadError.defect (Instruction.read fuel) (more + 1) (vs ++ .listClose :: ts) =
      .ok ([i], ts) := by
  simp only [Json.readList, h.listStart, Json.readItems, h.read hfuel, Json.listNext,
    Json.mapError_ok, bind, Except.bind, if_true, Bool.false_eq_true, if_false]

end Instruction

/-- A text that spells an instruction as the only item of a list is loaded as the program
of that instruction, whatever the form of the spelling, the order of the keys, the fields
that are left out, the members that are skipped and the layout. -/
theorem Program.ofText_spelling {i : Instruction} {vs : List Token} {s : String}
    (h : i.Spelling vs) (hs : Token.Layout (listTokens [vs]) s.toList) :
    ofText s = .ok (ofList [i]) := by
  have hfuel : vs.length ≤ (listTokens [vs]).length :=
    Nat.le_of_lt ((Json.lt_listTokens [vs]).2 vs (by simp))
  have hlist : Json.readList LoadError.defect (Instruction.read (listTokens [vs]).length)
      (listTokens [vs]).length (vs ++ [.listClose]) = .ok ([i], []) := h.readList hfuel _ []
  have hhead : Json.head (listTokens [vs]) = .ok (.list, vs ++ [.listClose]) := by
    simp [listTokens, Json.separated, Json.head]
  rw [ofText, Token.scan_layout hs]
  simp only [ofTokens, hhead, Instruction.defect_ok, bind, Except.bind, hlist, Json.finish]

/-! ## A record out of order -/

namespace Shuffled

def instruction : Instruction :=
  { opcode := "store", arg1 := some (.int (-7)), target := some 3 }

/-- Its fields from the last to the first, with a default that is written and a key that
names no field. -/
def members : List (String × List Token) :=
  [("note", listTokens [[.bool true], [.null]]),
    ("target", tokens (instruction.slotJson .target)),
    ("args", tokens (instruction.slotJson .args)),
    ("arg1", tokens (instruction.slotJson .arg1)),
    ("opcode", tokens (instruction.slotJson .opcode))]

/-- The record in a list, with blanks here and there and an escape in the tag. -/
def text : String :=
  "[ \x7b\"note\":[true , null],\"target\":3 ,\"args\":[],\"arg1\":-7,\n" ++
    "\"opcode\":\"\\u0073tore\"\x7d]"

theorem isRecord : instruction.IsRecord members where
  member := by
    have hlist : IsValue (listTokens [[.bool true], [.null]]) :=
      .list (by simpa using ⟨.bool true, .null⟩)
    simp only [members, List.forall_mem_cons]
    exact ⟨.unknown (by decide) hlist, .field .target, .field .args, .field .arg1,
      .field .opcode, nofun⟩
  once := by decide
  complete := by decide

theorem tokens_eq :
    listTokens [recordTokens (members.map fun m => (.text m.1, m.2))] =
      [.listOpen, .recordOpen, .text "note", .colon, .listOpen, .bool true, .comma, .null,
        .listClose, .comma, .text "target", .colon, .number (.ofInt 3), .comma, .text "args",
        .colon, .listOpen, .listClose, .comma, .text "arg1", .colon, .number (.ofInt (-7)),
        .comma, .text "opcode", .colon, .text "store", .recordClose, .listClose] := by
  simp [members, instruction, listTokens, recordTokens, Json.separated, Instruction.slotJson,
    Operand.toJson, Json.word, Json.int, tokens, Json.Number.token_int]

theorem layout :
    Token.Layout (listTokens [recordTokens (members.map fun m => (.text m.1, m.2))])
      text.toList := by
  have hitems : Token.Items (.unit 's'.toNat :: ['t', 'o', 'r', 'e'].map .char)
      ['\\', 'u', '0', '0', '7', '3', 't', 'o', 'r', 'e'] :=
    .unit (by decide) (Token.items_plain (by simp))
  have hstands : Token.Stands (.unit 's'.toNat :: ['t', 'o', 'r', 'e'].map .char)
      "store".toList :=
    .unit (Token.stands_plain _)
  have hopcode := Token.Layout.tight (.plain "opcode" (by simp)) nofun (.tight .colon nofun
    (.tight (.text hitems hstands) nofun (.tight .recordClose nofun
      (.tight .listClose nofun (.nil (List.forall_mem_nil _))))))
  have harg1 := Token.Layout.tight (.plain "arg1" (by simp)) nofun (.tight .colon nofun
    (.tight (.number (.int (-7))) (fun _ _ => Token.endsNumeral_comma _)
      (.tight .comma nofun (.blank (c := '\n') (by decide) hopcode))))
  have hargs := Token.Layout.tight (.plain "args" (by simp)) nofun (.tight .colon nofun
    (.tight .listOpen nofun (.tight .listClose nofun (.tight .comma nofun harg1))))
  have htarget := Token.Layout.tight (.plain "target" (by simp)) nofun (.tight .colon nofun
    (.tight (.number (.int 3)) (fun _ _ => Token.endsNumeral_cons _ (by decide))
      (.blank (c := ' ') (by decide) (.tight .comma nofun hargs))))
  have hnote := Token.Layout.tight (.plain "note" (by simp)) nofun (.tight .colon nofun
    (.tight .listOpen nofun (.tight (.bool true) nofun (.blank (c := ' ') (by decide)
      (.tight .comma nofun (.blank (c := ' ') (by decide) (.tight .null nofun
        (.tight .listClose nofun (.tight .comma nofun htarget)))))))))
  have hall := Token.Layout.tight .listOpen nofun
    (.blank (c := ' ') (by decide) (.tight .recordOpen nofun hnote))
  rw [tokens_eq]
  refine Eq.subst ?_ hall
  decide +kernel

end Shuffled

theorem Program.ofText_spelling_shuffled :
    Shuffled.instruction.IsRecord Shuffled.members ∧
      Token.Layout (listTokens [recordTokens (Shuffled.members.map fun m => (.text m.1, m.2))])
        Shuffled.text.toList ∧
      ofText Shuffled.text = .ok (ofList [Shuffled.instruction]) :=
  ⟨Shuffled.isRecord, Shuffled.layout, ofText_spelling (.record Shuffled.isRecord) Shuffled.layout⟩

end RegisterMachine
