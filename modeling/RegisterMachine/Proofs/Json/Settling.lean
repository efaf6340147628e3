import RegisterMachine.Proofs.Json.Read

/-!
# Tokens that are taken or refused

A reader settles some tokens if it makes the same of them whatever stands behind: it takes
exactly these as a value, or it fails (`Json.Settles`). The readers of lists and records
settle what their readers of items and fields settle, and they fail as soon as one of these
does. So a text in which a single value may be out of range is followed in one go, whether
it is loaded or not.

`Json.Means` are the values that can be read, with any numbers that doubles hold and any
strings that stand for a text.
-/

namespace RegisterMachine.Json

variable {ε α β σ : Type}

theorem toOption_bind (x : Except ε α) (next : α → Except ε β) :
    (x >>= next).toOption = x.toOption.bind fun a => (next a).toOption := by
  cases x <;> rfl

theorem toOption_mapError {ε' : Type} (x : Except ε α) (f : ε → ε') :
    (x.mapError f).toOption = x.toOption := by
  cases x <;> rfl

theorem toOption_map (x : Except ε α) (f : α → β) : (x.map f).toOption = x.toOption.map f := by
  cases x <;> rfl

theorem toOption_eq_some_iff {x : Except ε α} {a : α} : x.toOption = some a ↔ x = .ok a := by
  cases x with
  | error e => exact ⟨nofun, nofun⟩
  | ok b => exact ⟨fun h => congrArg _ (Option.some.inj h), fun h => by cases h; rfl⟩

theorem toOption_eq_none_iff {x : Except ε α} : x.toOption = none ↔ ∃ e, x = .error e := by
  cases x with
  | error e => exact ⟨fun _ => ⟨e, rfl⟩, fun _ => rfl⟩
  | ok b => exact ⟨nofun, nofun⟩

theorem mapM_some (f : β → α) (bs : List β) :
    (bs.mapM fun b => some (f b)) = some (bs.map f) :=
  List.mapM_pure

/-- Whatever stands behind the tokens, a reader takes exactly these as a value, or fails if
there is none. -/
def Settles (item : List Token → Except ε (α × List Token)) (vs : List Token) (o : Option α) :
    Prop :=
  ∀ ts, (item (vs ++ ts)).toOption = o.map (·, ts)

/-- What is made of a value afterwards may fail as well. -/
theorem Settles.bind {item : List Token → Except ε (α × List Token)} {vs : List Token}
    {o : Option α} (h : Settles item vs o) {next : α → List Token → Except ε (β × List Token)}
    {value : α → Option β} (hnext : ∀ a ts, (next a ts).toOption = (value a).map (·, ts)) :
    Settles (fun ts => item ts >>= fun p => next p.1 p.2) vs (o.bind value) := by
  intro ts
  rw [toOption_bind, h ts]
  cases o with
  | none => rfl
  | some a => exact hnext a ts

theorem Settles.map {item : List Token → Except ε (α × List Token)} {vs : List Token}
    {o : Option α} (h : Settles item vs o) (f : α → β) :
    Settles (fun ts => item ts >>= fun p => .ok (f p.1, p.2)) vs (o.map f) := by
  intro ts
  rw [toOption_bind, h ts]
  cases o with
  | none => rfl
  | some a => rfl

/-! ## Lists -/

def IsItem (vs : List Token) : Prop := ∃ t ts, vs = t :: ts ∧ t ≠ .listClose

theorem IsItem.listStart {vs : List Token} (h : IsItem vs) (ts : List Token) :
    Json.listStart (vs ++ ts) = .ok (true, vs ++ ts) := by
  obtain ⟨t, us, rfl, ht⟩ := h
  rw [List.cons_append, Json.listStart]
  · exact nofun
  · exact fun _ heq => ht (List.cons.inj heq).1

theorem IsItem.listNext {vs : List Token} (h : IsItem vs) (ts : List Token) :
    Json.listNext (.comma :: (vs ++ ts)) = .ok (true, vs ++ ts) := by
  obtain ⟨t, us, rfl, ht⟩ := h
  rw [List.cons_append, Json.listNext]
  · simp
  · exact fun _ heq => ht (List.cons.inj heq).1

section Lists

variable (lift : Defect → ε) {item : List Token → Except ε (α × List Token)}
  {write : β → List Token} {value : β → Option α}

theorem readItems_settles {b : β} {bs : List β}
    (h : ∀ c ∈ b :: bs, IsItem (write c) ∧ Settles item (write c) (value c)) {fuel : Nat}
    (hfuel : bs.length < fuel) (ts : List Token) :
    (readItems lift item fuel
      (write b ++ ((bs.map write).flatMap (.comma :: ·) ++ .listClose :: ts))).toOption =
        ((b :: bs).mapM value).map (·, ts) := by
  have hb := (h b (by simp)).2
  induction bs generalizing b fuel with
  | nil =>
      obtain ⟨fuel, rfl⟩ := Nat.exists_eq_succ_of_ne_zero (Nat.ne_of_gt hfuel)
      rw [readItems, toOption_bind, hb, List.mapM_cons, List.mapM_nil]
      cases value b with
      | none => rfl
      | some a => rfl
  | cons c bs ih =>
      obtain ⟨fuel, rfl⟩ := Nat.exists_eq_succ_of_ne_zero (Nat.ne_zero_of_lt hfuel)
      have hcs : ∀ d ∈ c :: bs, IsItem (write d) ∧ Settles item (write d) (value d) :=
        fun d hd => h d (List.mem_cons_of_mem _ hd)
      obtain ⟨hitem, hc⟩ := hcs c (by simp)
      have hread := ih hcs (Nat.lt_of_succ_lt_succ hfuel) hc
      have hnext := hitem.listNext ((bs.map write).flatMap (.comma :: ·) ++ .listClose :: ts)
      rw [readItems, toOption_bind, hb, List.mapM_cons, List.map_cons, List.flatMap_cons,
        List.append_assoc, List.cons_append]
      cases value b with
      | none => rfl
      | some a =>
          simp only [Option.map_some, Option.bind_some, hnext, mapError_ok]
          show (readItems lift item fuel _ >>= fun r => .ok (a :: r.1, r.2)).toOption = _
          rw [toOption_bind, hread]
          cases (c :: bs).mapM value with
          | none => rfl
          | some as => rfl

theorem readList_settles {bs : List β}
    (h : ∀ b ∈ bs, IsItem (write b) ∧ Settles item (write b) (value b)) {fuel : Nat}
    (hfuel : bs.length ≤ fuel) (ts : List Token) :
    ∃ us, listTokens (bs.map write) ++ ts = .listOpen :: us ∧
      (readList lift item fuel us).toOption = (bs.mapM value).map (·, ts) := by
  cases bs with
  | nil => exact ⟨.listClose :: ts, rfl, rfl⟩
  | cons b bs =>
      refine ⟨write b ++ ((bs.map write).flatMap (.comma :: ·) ++ .listClose :: ts), ?_, ?_⟩
      · simp [listTokens, separated]
      · rw [readList, (h b (by simp)).1.listStart]
        exact readItems_settles lift h hfuel ts

end Lists

/-! ## Records -/

section Records

variable (lift : Defect → ε) {field : σ → String → List Token → Except ε (σ × List Token)}
  {key : β → String} {write : β → List Token} {step : σ → β → Option σ}

/-- What a reader of fields makes of a member, by a step from what has been gathered to what
is gathered with it. -/
def SettlesField (field : σ → String → List Token → Except ε (σ × List Token))
    (key : β → String) (write : β → List Token) (step : σ → β → Option σ) (b : β) : Prop :=
  ∀ s ts, (field s (key b) (.colon :: (write b ++ ts))).toOption = (step s b).map (·, ts)

theorem readFields_settles {b : β} {bs : List β}
    (h : ∀ c ∈ b :: bs, SettlesField field key write step c) {fuel : Nat}
    (hfuel : bs.length < fuel) (s : σ) (ts : List Token) :
    (readFields lift field fuel s (key b)
      (.colon :: (write b ++
        ((bs.map fun c => .text (key c) :: .colon :: write c).flatMap (.comma :: ·) ++
          .recordClose :: ts)))).toOption = ((b :: bs).foldlM step s).map (·, ts) := by
  have hb := h b (by simp)
  induction bs generalizing b s fuel with
  | nil =>
      obtain ⟨fuel, rfl⟩ := Nat.exists_eq_succ_of_ne_zero (Nat.ne_of_gt hfuel)
      rw [readFields, toOption_bind, hb, List.foldlM_cons]
      cases step s b with
      | none => rfl
      | some s' => rfl
  | cons c bs ih =>
      obtain ⟨fuel, rfl⟩ := Nat.exists_eq_succ_of_ne_zero (Nat.ne_zero_of_lt hfuel)
      have hcs : ∀ d ∈ c :: bs, SettlesField field key write step d :=
        fun d hd => h d (List.mem_cons_of_mem _ hd)
      have hread := fun s' => ih hcs (Nat.lt_of_succ_lt_succ hfuel) s' (hcs c (by simp))
      rw [readFields, toOption_bind, hb, List.foldlM_cons, List.map_cons, List.flatMap_cons]
      cases step s b with
      | none => rfl
      | some s' =>
          simp only [List.cons_append, List.append_assoc]
          exact hread s'

/-- A record is taken if all its members are, one after the other. -/
theorem readRecord_settles {bs : List β}
    (h : ∀ b ∈ bs, SettlesField field key write step b) {fuel : Nat}
    (hfuel : bs.length ≤ fuel) (s : σ) (ts : List Token) :
    ∃ us, recordTokens (bs.map fun b => (.text (key b), write b)) ++ ts = .recordOpen :: us ∧
      (readRecord lift field fuel s us).toOption = (bs.foldlM step s).map (·, ts) := by
  cases bs with
  | nil => exact ⟨.recordClose :: ts, rfl, rfl⟩
  | cons b bs =>
      let further := (bs.map fun c => .text (key c) :: .colon :: write c).flatMap (.comma :: ·)
      refine ⟨.text (key b) :: .colon :: (write b ++ (further ++ .recordClose :: ts)), ?_, ?_⟩
      · simp [recordTokens, separated, further, Function.comp_def]
      · exact readFields_settles lift h hfuel s ts

end Records

/-! ## Values -/

section Values

variable {fuel room : Nat} {key : β → String} {write : β → List Token} {value : β → Option Json}

/-- A value of one token is taken as what stands in front. -/
theorem settles_token {t : Token} {v : Json} (h : ∀ ts, head (t :: ts) = .ok (v.shape, ts))
    (hlist : v.shape ≠ .list) (hrecord : v.shape ≠ .record) :
    Settles (read fuel room) [t] (some v) := by
  intro ts
  have hread : read fuel room (t :: ts) = .ok (v, ts) := read_of_head (h ts) rfl hlist hrecord
  rw [List.cons_append, List.nil_append, hread]
  rfl

theorem settles_number (n : Numeral) :
    Settles (read fuel room) [.number n] (n.value?.map Json.number) := by
  cases hn : n.value? with
  | none =>
      intro ts
      have hhead : head (.number n :: ts) = .error .malformed := by
        simp only [head, hn]
      rw [List.cons_append, List.nil_append, read_of_head_error hhead]
      rfl
  | some x =>
      have hhead : ∀ ts, head (.number n :: ts) = .ok (Shape.number x, ts) := by
        intro ts
        simp only [head, hn]
      exact settles_token (v := .number x) hhead (by simp [shape]) (by simp [shape])

/-- In front, a number is seen if it denotes one. -/
theorem settles_head_number (n : Numeral) :
    Settles head [.number n] (n.value?.map Shape.number) := by
  intro ts
  cases hn : n.value? with
  | none =>
      simp only [List.cons_append, List.nil_append, head, hn]
      rfl
  | some x =>
      simp only [List.cons_append, List.nil_append, head, hn]
      rfl

theorem settles_list {bs : List β}
    (h : ∀ b ∈ bs, IsItem (write b) ∧ Settles (read fuel room) (write b) (value b))
    (hfuel : bs.length ≤ fuel) :
    Settles (read fuel (room + 1)) (listTokens (bs.map write)) ((bs.mapM value).map .list) := by
  intro ts
  obtain ⟨us, hus, hread⟩ := readList_settles id h hfuel ts
  rw [hus, read_listOpen, toOption_bind, hread]
  cases bs.mapM value with
  | none => rfl
  | some items => rfl

def gather (key : β → String) (value : β → Option Json) (fields : Array (String × Json)) (b : β) :
    Option (Array (String × Json)) :=
  (value b).map fun v => fields.push (key b, v)

theorem settlesField_pushField {read : List Token → Except Defect (Json × List Token)} {b : β}
    (h : Settles read (write b) (value b)) :
    SettlesField (pushField read) key write (gather key value) b := by
  intro fields ts
  show (read (write b ++ ts) >>= fun r => .ok (fields.push (key b, r.1), r.2)).toOption = _
  rw [toOption_bind, h ts, gather]
  cases value b with
  | none => rfl
  | some v => rfl

theorem foldlM_gather (bs : List β) (before : Array (String × Json)) :
    bs.foldlM (gather key value) before =
      (bs.mapM fun b => (value b).map (key b, ·)).map (before ++ ·.toArray) := by
  induction bs generalizing before with
  | nil => simp
  | cons b bs ih =>
      rw [List.foldlM_cons, List.mapM_cons, gather]
      cases value b with
      | none => rfl
      | some v =>
          show List.foldlM _ (before.push (key b, v)) bs = _
          rw [ih]
          cases bs.mapM fun b => (value b).map (key b, ·) with
          | none => rfl
          | some fields => simp

theorem settles_record {bs : List β} (h : ∀ b ∈ bs, Settles (read fuel room) (write b) (value b))
    (hfuel : bs.length ≤ fuel) :
    Settles (read fuel (room + 1)) (recordTokens (bs.map fun b => (.text (key b), write b)))
      ((bs.mapM fun b => (value b).map (key b, ·)).map .record) := by
  intro ts
  obtain ⟨us, hus, hread⟩ :=
    readRecord_settles id (fun b hb => settlesField_pushField (h b hb)) hfuel #[] ts
  rw [hus, read_recordOpen, toOption_bind, hread, foldlM_gather]
  cases bs.mapM fun b => (value b).map (key b, ·) with
  | none => rfl
  | some fields =>
      simp only [Option.map_some, Array.empty_append]
      rfl

/-- A record in which only one value is open is taken as soon as that one is. -/
theorem settles_record_around {k : String} {vs : List Token} {o : Option Json}
    {before after : List (String × List Token × Json)} (hvs : Settles (read fuel room) vs o)
    (h : ∀ m ∈ before ++ after, Settles (read fuel room) m.2.1 (some m.2.2))
    (hfuel : (before ++ after).length < fuel) :
    Settles (read fuel (room + 1))
      (recordTokens ((before.map fun m => (.text m.1, m.2.1)) ++ (.text k, vs) ::
        after.map fun m => (.text m.1, m.2.1)))
      (o.map fun v => .record ((before.map fun m => (m.1, m.2.2)) ++ (k, v) ::
        after.map fun m => (m.1, m.2.2))) := by
  let known (m : String × List Token × Json) : String × List Token × Option Json :=
    (m.1, m.2.1, some m.2.2)
  have hmembers : ∀ b ∈ before.map known ++ (k, vs, o) :: after.map known,
      Settles (read fuel room) b.2.1 b.2.2 := by
    rw [List.forall_mem_append] at h
    rw [List.forall_mem_append, List.forall_mem_cons, List.forall_mem_map, List.forall_mem_map]
    exact ⟨h.1, hvs, h.2⟩
  have hlength : (before.map known ++ (k, vs, o) :: after.map known).length ≤ fuel := by
    rw [List.length_append] at hfuel
    rw [List.length_append, List.length_cons, List.length_map, List.length_map]
    omega
  have hsettles := @settles_record _ fuel room Prod.fst _ _ _ hmembers hlength
  have hvalue : (before.map known ++ (k, vs, o) :: after.map known).mapM
      (fun b => b.2.2.map (b.1, ·)) =
        o.map fun v => (before.map fun m => (m.1, m.2.2)) ++ (k, v) ::
          after.map fun m => (m.1, m.2.2) := by
    have hknown : ∀ ms : List (String × List Token × Json),
        (ms.map known).mapM (fun b => b.2.2.map (b.1, ·)) = some (ms.map fun m => (m.1, m.2.2)) :=
      fun ms => List.mapM_map.trans (mapM_some _ ms)
    rw [List.mapM_append, List.mapM_cons, hknown, hknown]
    cases o with
    | none => rfl
    | some v => rfl
  rw [hvalue, Option.map_map] at hsettles
  simpa [known, Function.comp_def] using hsettles

end Values

/-- The tokens of a value that can be read, and the value: its numbers denote some, its
strings stand for texts, and its brackets nest at most so deep. -/
inductive Means : Nat → List Token → Json → Prop
  | null {room : Nat} : Means room [.null] .null
  | bool {room : Nat} (b : Bool) : Means room [.bool b] (.bool b)
  | number {room : Nat} {n : Numeral} {x : Number} (h : n.value? = some x) :
      Means room [.number n] (.number x)
  | text {room : Nat} (s : String) : Means room [.text s] (.text s)
  | list {room : Nat} {items : List (List Token × Json)} (h : ∀ m ∈ items, Means room m.1 m.2) :
      Means (room + 1) (listTokens (items.map Prod.fst)) (.list (items.map Prod.snd))
  | record {room : Nat} {members : List (String × List Token × Json)}
      (h : ∀ m ∈ members, Means room m.2.1 m.2.2) :
      Means (room + 1) (recordTokens (members.map fun m => (.text m.1, m.2.1)))
        (.record (members.map fun m => (m.1, m.2.2)))

theorem Means.isItem {room : Nat} {vs : List Token} {v : Json} (h : Means room vs v) :
    IsItem vs := by
  cases h with
  | null | bool | number | text | list | record => exact ⟨_, _, rfl, nofun⟩

theorem Means.settles {room : Nat} {vs : List Token} {v : Json} (h : Means room vs v) {fuel : Nat}
    (hfuel : vs.length ≤ fuel) : Settles (read fuel room) vs (some v) := by
  induction h with
  | null => exact settles_token (fun _ => rfl) nofun nofun
  | bool b => exact settles_token (fun _ => rfl) nofun nofun
  | @number room n x hn =>
      have hsettles := @settles_number fuel room n
      rwa [hn] at hsettles
  | text s => exact settles_token (fun _ => rfl) nofun nofun
  | @list room items h ih =>
      obtain ⟨hlength, hitems⟩ := lt_listTokens (items.map Prod.fst)
      rw [List.length_map] at hlength
      rw [List.forall_mem_map] at hitems
      have hread : ∀ m ∈ items, IsItem m.1 ∧ Settles (read fuel room) m.1 (some m.2) := by
        intro m hm
        have hlt := hitems m hm
        exact ⟨(h m hm).isItem, ih m hm (by omega)⟩
      have hsettles := settles_list hread (by omega)
      rwa [mapM_some] at hsettles
  | @record room members h ih =>
      obtain ⟨hlength, hmembers⟩ := lt_recordTokens (members.map fun m => (.text m.1, m.2.1))
      rw [List.length_map] at hlength
      rw [List.forall_mem_map] at hmembers
      have hread : ∀ m ∈ members, Settles (read fuel room) m.2.1 (some m.2.2) := by
        intro m hm
        exact ih m hm (Nat.le_trans (Nat.le_of_lt (hmembers m hm)) hfuel)
      have hsettles := @settles_record _ fuel room Prod.fst _ _ _ hread (by omega)
      simp only [Option.map_some] at hsettles
      rwa [mapM_some] at hsettles

end RegisterMachine.Json
