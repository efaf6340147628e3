import RegisterMachine.Json.Reader
import RegisterMachine.Proofs.Json.Scan

/-!
# Reading tokens back

The readers of lists and records undo `Json.tokens`, given that the reader of an item or
of a field does: it takes exactly the tokens that were written for it and leaves the
rest. The loops never run out, since a list or a record has no more members than tokens.
For records the reader of a field works on what has been gathered so far, which
`Json.Absorbs` follows from field to field.
-/

namespace RegisterMachine.Json

variable {ε α σ : Type}

/-! ## Members -/

def separated : List (List Token) → List Token
  | [] => []
  | ts :: members => ts ++ members.flatMap (.comma :: ·)

def listTokens (items : List (List Token)) : List Token :=
  .listOpen :: (separated items ++ [.listClose])

def recordTokens (members : List (Token × List Token)) : List Token :=
  .recordOpen :: (separated (members.map fun m => m.1 :: .colon :: m.2) ++ [.recordClose])

theorem furtherItems_eq (items : List Json) :
    furtherItems items = (items.map tokens).flatMap (.comma :: ·) := by
  induction items with
  | nil => rw [furtherItems, List.map_nil, List.flatMap_nil]
  | cons v items ih => rw [furtherItems, ih, List.map_cons, List.flatMap_cons]

theorem furtherFields_eq (fields : List (String × Json)) :
    furtherFields fields =
      (fields.map fun f => .text f.1 :: .colon :: tokens f.2).flatMap (.comma :: ·) := by
  induction fields with
  | nil => rw [furtherFields, List.map_nil, List.flatMap_nil]
  | cons f fields ih => rw [furtherFields, ih, List.map_cons, List.flatMap_cons]

theorem tokens_list (items : List Json) : tokens (.list items) = listTokens (items.map tokens) := by
  cases items with
  | nil =>
      rw [tokens]
      rfl
  | cons v items =>
      rw [tokens, furtherItems_eq]
      rfl

theorem tokens_record (fields : List (String × Json)) :
    tokens (.record fields) = recordTokens (fields.map fun f => (.text f.1, tokens f.2)) := by
  cases fields with
  | nil =>
      rw [tokens]
      rfl
  | cons f fields =>
      rw [tokens, furtherFields_eq, recordTokens, List.map_map]
      rfl

/-! ## Counting tokens -/

theorem length_le_further (members : List (List Token)) :
    members.length ≤ (members.flatMap (.comma :: ·)).length ∧
      ∀ ts ∈ members, ts.length ≤ (members.flatMap (.comma :: ·)).length := by
  induction members with
  | nil => simp
  | cons ts members ih =>
      rw [List.flatMap_cons, List.length_append, List.length_cons, List.length_cons]
      refine ⟨by omega, ?_⟩
      intro us hus
      rcases List.mem_cons.mp hus with rfl | hus
      · omega
      · have hle := ih.2 us hus
        omega

theorem length_le_separated (members : List (List Token)) :
    members.length ≤ (separated members).length + 1 ∧
      ∀ ts ∈ members, ts.length ≤ (separated members).length := by
  cases members with
  | nil => simp
  | cons ts members =>
      obtain ⟨hlength, hmembers⟩ := length_le_further members
      rw [separated, List.length_append, List.length_cons]
      refine ⟨by omega, ?_⟩
      intro us hus
      rcases List.mem_cons.mp hus with rfl | hus
      · omega
      · have hle := hmembers us hus
        omega

/-- A list has fewer items than tokens, and an item has fewer tokens than the list. -/
theorem lt_listTokens (items : List (List Token)) :
    items.length < (listTokens items).length ∧
      ∀ ts ∈ items, ts.length < (listTokens items).length := by
  obtain ⟨hlength, hitems⟩ := length_le_separated items
  rw [listTokens, List.length_cons, List.length_append, List.length_singleton]
  refine ⟨by omega, ?_⟩
  intro ts hts
  have hle := hitems ts hts
  omega

theorem lt_recordTokens (members : List (Token × List Token)) :
    members.length < (recordTokens members).length ∧
      ∀ m ∈ members, m.2.length < (recordTokens members).length := by
  obtain ⟨hlength, hmembers⟩ := length_le_separated (members.map fun m => m.1 :: .colon :: m.2)
  rw [List.length_map] at hlength
  rw [recordTokens, List.length_cons, List.length_append, List.length_singleton]
  refine ⟨by omega, ?_⟩
  intro m hm
  have hle := hmembers _ (List.mem_map_of_mem hm)
  rw [List.length_cons, List.length_cons] at hle
  omega

theorem lt_tokens_list (items : List Json) :
    items.length < (tokens (.list items)).length ∧
      ∀ v ∈ items, (tokens v).length < (tokens (.list items)).length := by
  have hlt := lt_listTokens (items.map tokens)
  rwa [← tokens_list, List.length_map, List.forall_mem_map] at hlt

theorem lt_tokens_record (fields : List (String × Json)) :
    fields.length < (tokens (.record fields)).length ∧
      ∀ f ∈ fields, (tokens f.2).length < (tokens (.record fields)).length := by
  have hlt := lt_recordTokens (fields.map fun f => (.text f.1, tokens f.2))
  rwa [← tokens_record, List.length_map, List.forall_mem_map] at hlt

/-! ## Lists -/

/-- No value starts with a closing bracket, and only `null` with that literal. -/
theorem exists_tokens_eq_cons (v : Json) :
    ∃ t ts, tokens v = t :: ts ∧ t ≠ .listClose ∧ (t = .null → v = .null) := by
  cases v with
  | null => exact ⟨.null, [], by rw [tokens], by simp, by simp⟩
  | bool b => exact ⟨.bool b, [], by rw [tokens], by simp, by simp⟩
  | text s => exact ⟨.text s, [], by rw [tokens], by simp, by simp⟩
  | list items =>
      cases items with
      | nil => exact ⟨.listOpen, _, by rw [tokens], by simp, by simp⟩
      | cons v items =>
          exact ⟨.listOpen, _, by rw [tokens, List.cons_append, List.cons_append], by simp, by simp⟩
  | record fields =>
      cases fields with
      | nil => exact ⟨.recordOpen, _, by rw [tokens], by simp, by simp⟩
      | cons f fields =>
          exact ⟨.recordOpen, _, by rw [tokens, List.cons_append, List.cons_append], by simp,
            by simp⟩
  | number n =>
      refine ⟨Number.token n, [], by rw [tokens], ?_⟩
      rw [Number.token]
      split
      · simp
      · simp

theorem listStart_tokens (v : Json) (ts : List Token) :
    listStart (tokens v ++ ts) = .ok (true, tokens v ++ ts) := by
  obtain ⟨t, us, hv, ht, -⟩ := exists_tokens_eq_cons v
  rw [hv, List.cons_append]
  unfold listStart
  split
  · contradiction
  · next h => exact absurd (List.cons.inj h).1 ht
  · rfl

theorem listNext_tokens (v : Json) (ts : List Token) :
    listNext (.comma :: (tokens v ++ ts)) = .ok (true, tokens v ++ ts) := by
  obtain ⟨t, us, hv, ht, -⟩ := exists_tokens_eq_cons v
  rw [hv, List.cons_append, listNext]
  · intro h
    cases h
  · intro ts' h
    exact ht (List.cons.inj h).1

/-- A reader of items takes exactly what was written for an item, whatever stands behind it. -/
def ReadsBack (item : List Token → Except ε (α × List Token)) (write : α → Json) (a : α) : Prop :=
  ∀ ts, item (tokens (write a) ++ ts) = .ok (a, ts)

theorem mapError_ok {ε' β : Type} (f : ε → ε') (b : β) :
    (Except.ok b : Except ε β).mapError f = .ok b := rfl

section Lists

variable (lift : Defect → ε) {item : List Token → Except ε (α × List Token)} {write : α → Json}

theorem readItems_tokens {a : α} {as : List α} (h : ∀ b ∈ a :: as, ReadsBack item write b)
    {fuel : Nat} (hfuel : as.length < fuel) (ts : List Token) :
    readItems lift item fuel
      (tokens (write a) ++ (furtherItems (as.map write) ++ .listClose :: ts)) =
        .ok (a :: as, ts) := by
  have ha := h a (by simp)
  induction as generalizing a fuel with
  | nil =>
      cases fuel with
      | zero => cases hfuel
      | succ fuel =>
          rw [readItems, ha]
          rfl
  | cons b as ih =>
      have hbs : ∀ c ∈ b :: as, ReadsBack item write c :=
        fun c hc => h c (List.mem_cons_of_mem _ hc)
      cases fuel with
      | zero => cases hfuel
      | succ fuel =>
          have hread := ih hbs (Nat.lt_of_succ_lt_succ hfuel) (hbs b (by simp))
          have hnext := listNext_tokens (write b)
            (furtherItems (as.map write) ++ .listClose :: ts)
          simp only [readItems, ha _, List.map_cons, furtherItems, List.cons_append,
            List.append_assoc, hnext, hread, mapError_ok, bind, Except.bind, if_true]

/-- Reading a list gives back the items that were written. -/
theorem readList_tokens {as : List α} (h : ∀ a ∈ as, ReadsBack item write a) {fuel : Nat}
    (hfuel : as.length ≤ fuel) (ts : List Token) :
    ∃ us, tokens (.list (as.map write)) ++ ts = .listOpen :: us ∧
      readList lift item fuel us = .ok (as, ts) := by
  cases as with
  | nil => exact ⟨.listClose :: ts, by rw [List.map_nil, tokens]; rfl, rfl⟩
  | cons a as =>
      refine ⟨tokens (write a) ++ (furtherItems (as.map write) ++ .listClose :: ts), ?_, ?_⟩
      · simp [tokens]
      · rw [readList, listStart_tokens]
        exact readItems_tokens lift h hfuel ts

end Lists

/-! ## Records -/

/-- What has been gathered when a reader of fields has read the fields that were written,
one after the other. -/
inductive Absorbs (field : σ → String → List Token → Except ε (σ × List Token)) :
    σ → List (String × Json) → σ → Prop
  | nil {s : σ} : Absorbs field s [] s
  | cons {s s' s'' : σ} {k : String} {v : Json} {fields : List (String × Json)}
      (h : ∀ ts, field s k (.colon :: (tokens v ++ ts)) = .ok (s', ts))
      (hrest : Absorbs field s' fields s'') : Absorbs field s ((k, v) :: fields) s''

section Records

variable (lift : Defect → ε) {field : σ → String → List Token → Except ε (σ × List Token)}

theorem Absorbs.append {s s' s'' : σ} {fields rest : List (String × Json)}
    (h : Absorbs field s fields s') (h' : Absorbs field s' rest s'') :
    Absorbs field s (fields ++ rest) s'' := by
  induction h with
  | nil => exact h'
  | cons h _ ih => exact .cons h (ih h')

/-- What has been gathered when a reader of fields has read members, one after the other:
it takes the tokens of each and leaves the rest. -/
inductive Takes (field : σ → String → List Token → Except ε (σ × List Token)) :
    σ → List (String × List Token) → σ → Prop
  | nil {s : σ} : Takes field s [] s
  | cons {s s' s'' : σ} {k : String} {vs : List Token} {members : List (String × List Token)}
      (h : ∀ ts, field s k (.colon :: (vs ++ ts)) = .ok (s', ts))
      (hrest : Takes field s' members s'') : Takes field s ((k, vs) :: members) s''

theorem Absorbs.takes {s s' : σ} {fields : List (String × Json)} (h : Absorbs field s fields s') :
    Takes field s (fields.map fun f => (f.1, tokens f.2)) s' := by
  induction h with
  | nil => exact .nil
  | cons h _ ih => exact .cons h ih

theorem readFields_takes {s s' s'' : σ} {k : String} {vs : List Token}
    {members : List (String × List Token)}
    (h : ∀ ts, field s k (.colon :: (vs ++ ts)) = .ok (s', ts))
    (hrest : Takes field s' members s'') {fuel : Nat} (hfuel : members.length < fuel)
    (ts : List Token) :
    readFields lift field fuel s k
      (.colon :: (vs ++ ((members.map fun m => .text m.1 :: .colon :: m.2).flatMap (.comma :: ·) ++
        .recordClose :: ts))) = .ok (s'', ts) := by
  induction hrest generalizing s k vs fuel with
  | nil =>
      cases fuel with
      | zero => cases hfuel
      | succ fuel =>
          rw [readFields, h]
          rfl
  | cons h' hrest ih =>
      cases fuel with
      | zero => cases hfuel
      | succ fuel =>
          have hread := ih h' (Nat.lt_of_succ_lt_succ hfuel)
          rw [readFields, h]
          simp only [List.map_cons, List.flatMap_cons, List.cons_append, List.append_assoc]
          exact hread

/-- Reading a record takes its members, whatever their keys and values are. -/
theorem readRecord_takes {s s' : σ} {members : List (String × List Token)}
    (h : Takes field s members s') {fuel : Nat} (hfuel : members.length ≤ fuel) (ts : List Token) :
    ∃ us, recordTokens (members.map fun m => (.text m.1, m.2)) ++ ts = .recordOpen :: us ∧
      readRecord lift field fuel s us = .ok (s', ts) := by
  cases h with
  | nil => exact ⟨.recordClose :: ts, rfl, rfl⟩
  | @cons _ s₁ _ k vs members h hrest =>
      let further := (members.map fun m => .text m.1 :: .colon :: m.2).flatMap (.comma :: ·)
      refine ⟨.text k :: .colon :: (vs ++ (further ++ .recordClose :: ts)), ?_, ?_⟩
      · simp [recordTokens, separated, further, Function.comp_def]
      · exact readFields_takes lift h hrest hfuel ts

theorem readRecord_tokens {s s' : σ} {fields : List (String × Json)} (h : Absorbs field s fields s')
    {fuel : Nat} (hfuel : fields.length ≤ fuel) (ts : List Token) :
    ∃ us, tokens (.record fields) ++ ts = .recordOpen :: us ∧
      readRecord lift field fuel s us = .ok (s', ts) := by
  have hlength : (fields.map fun f => (f.1, tokens f.2)).length ≤ fuel := by
    rwa [List.length_map]
  have hread := readRecord_takes lift h.takes hlength ts
  rwa [List.map_map, Function.comp_def, ← tokens_record] at hread

end Records

/-! ## Values -/

theorem absorbs_pushField {read : List Token → Except Defect (Json × List Token)}
    {fields : List (String × Json)} (h : ∀ f ∈ fields, ReadsBack read id f.2)
    (before : Array (String × Json)) :
    Absorbs (pushField read) before fields (before ++ fields.toArray) := by
  induction fields generalizing before with
  | nil =>
      rw [Array.append_empty]
      exact .nil
  | cons f fields ih =>
      obtain ⟨k, v⟩ := f
      have hv : ReadsBack read id v := h (k, v) (by simp)
      have hrest := ih (fun g hg => h g (List.mem_cons_of_mem _ hg)) (before.push (k, v))
      have hall : before.push (k, v) ++ fields.toArray = before ++ ((k, v) :: fields).toArray := by
        apply Array.ext'
        simp
      rw [hall] at hrest
      refine .cons ?_ hrest
      intro ts
      show pushField read before k (.colon :: (tokens (id v) ++ ts)) = _
      simp only [pushField, colon, hv ts, bind, Except.bind]

section Values

variable {fuel room : Nat}

theorem read_of_head {ts us : List Token} {found : Shape} {v : Json}
    (hhead : head ts = .ok (found, us)) (hv : v.shape = found) (hlist : found ≠ .list)
    (hrecord : found ≠ .record) : read fuel room ts = .ok (v, us) := by
  have hvalue : ∀ inner, readValue fuel inner ts = .ok (v, us) := by
    intro inner
    rw [readValue, hhead]
    cases v with
    | list => exact absurd hv.symm hlist
    | record => exact absurd hv.symm hrecord
    | _ =>
        cases hv
        rfl
  cases room with
  | zero => exact hvalue none
  | succ room => exact hvalue (some (read fuel room))

theorem readValue_of_head_error {inner : Option (List Token → Except Defect (Json × List Token))}
    {us : List Token} {e : Defect} (h : head us = .error e) :
    readValue fuel inner us = .error e := by
  rw [readValue, h]
  rfl

theorem read_of_head_error {us : List Token} {e : Defect} (h : head us = .error e) :
    read fuel room us = .error e := by
  cases room with
  | zero => exact readValue_of_head_error h
  | succ room => exact readValue_of_head_error h

theorem read_listOpen (ts : List Token) :
    read fuel (room + 1) (.listOpen :: ts) = (do
      let (items, ts) ← readList id (read fuel room) fuel ts
      .ok (.list items, ts)) := rfl

theorem read_recordOpen (ts : List Token) :
    read fuel (room + 1) (.recordOpen :: ts) = (do
      let (fields, ts) ← readRecord id (pushField (read fuel room)) fuel #[] ts
      .ok (.record fields.toList, ts)) := rfl

/-- Reading the tokens of a value gives the value back. -/
theorem read_tokens {v : Json} (h : Fits room v) (hfuel : (tokens v).length ≤ fuel) :
    ReadsBack (read fuel room) id v := by
  induction h with
  | null =>
      intro ts
      rw [id, tokens]
      exact read_of_head rfl rfl (by simp) (by simp)
  | bool b =>
      intro ts
      rw [id, tokens]
      exact read_of_head rfl rfl (by simp) (by simp)
  | @int _ n hmin hmax =>
      intro ts
      have hvalue := Numeral.value?_ofInt hmin hmax
      rw [id, tokens, Number.token_int]
      have hhead : head ([.number (.ofInt n)] ++ ts) = .ok (.number (.int n), ts) := by
        simp only [List.cons_append, List.nil_append, head, hvalue]
      exact read_of_head hhead rfl (by simp) (by simp)
  | text s =>
      intro ts
      rw [id, tokens]
      exact read_of_head rfl rfl (by simp) (by simp)
  | @list room items _ ih =>
      intro ts
      obtain ⟨hlength, hitems⟩ := lt_tokens_list items
      have hread : ∀ v ∈ items, ReadsBack (read fuel room) id v := by
        intro v hv
        have hlt := hitems v hv
        exact ih v hv (by omega)
      have hle : items.length ≤ fuel := by omega
      obtain ⟨us, hus, hlist⟩ := readList_tokens id hread hle ts
      rw [List.map_id] at hus
      rw [id, hus, read_listOpen, hlist]
      rfl
  | @record room fields _ ih =>
      intro ts
      obtain ⟨hlength, hfields⟩ := lt_tokens_record fields
      have hread : ∀ f ∈ fields, ReadsBack (read fuel room) id f.2 := by
        intro f hf
        have hlt := hfields f hf
        exact ih f hf (by omega)
      have hle : fields.length ≤ fuel := by omega
      obtain ⟨us, hus, hrecord⟩ := readRecord_tokens id (absorbs_pushField hread #[]) hle ts
      rw [id, hus, read_recordOpen, hrecord, Array.empty_append]
      rfl

end Values

end RegisterMachine.Json
