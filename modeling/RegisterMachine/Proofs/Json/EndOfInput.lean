import Mathlib.Control.Monad.Basic
import RegisterMachine.Proofs.Json.Truncation

/-!
# Reading tokens that stop early

A list or a record is whole only with its closing bracket, so reading one whose tokens stop
early reports the end of the input, given that the reader of an item or of a field does so
or uses up all tokens (`Json.RunsOut`). The second case is that of an integer which has lost
digits: it is read as another one, and then there is nothing behind it.

What is read before the cut is there as a whole, so it takes no more than the tokens there
are, and is read as it was written. For the same reason the loops do not count down to zero
before the cut: each member takes a token at least, and they have a turn for every token.
-/

namespace RegisterMachine.Json

open Token (Cut Shortens)

variable {ε α β σ : Type} (lift : Defect → ε)

/-- The end of the input is reported, or nothing is left of it: a number that has been cut may still
be read, as a shorter number. -/
def RunsOut (x : Except ε (α × List Token)) : Prop :=
  x = .error (lift .endOfInput) ∨ ∃ a, x = .ok (a, [])

variable {lift}

theorem RunsOut.bind_eq_error {x : Except ε (α × List Token)} {next : α × List Token → Except ε β}
    (h : RunsOut lift x) (hnext : ∀ a, next (a, []) = .error (lift .endOfInput)) :
    x >>= next = .error (lift .endOfInput) := by
  rcases h with rfl | ⟨a, rfl⟩
  · rfl
  · exact hnext a

theorem RunsOut.bind {x : Except ε (α × List Token)}
    {next : α × List Token → Except ε (β × List Token)} (h : RunsOut lift x)
    (hnext : ∀ a, RunsOut lift (next (a, []))) : RunsOut lift (x >>= next) := by
  rcases h with rfl | ⟨a, rfl⟩
  · exact .inl rfl
  · exact hnext a

/-! ## Tokens in front -/

/-- What starts with a bracket, a comma or a colon starts with it as long as there is anything. -/
theorem Token.Shortens.of_cons {t : Token} {ts us : List Token} (h : Shortens (t :: ts) us)
    (ht : ∀ t', ¬Cut t t') : us = [] ∨ ∃ vs, us = t :: vs ∧ Shortens ts vs := by
  cases h with
  | stop => exact .inl rfl
  | cut h => exact absurd h (ht _)
  | cons _ h => exact .inr ⟨_, rfl, h⟩

theorem Token.not_shortens_nil (us : List Token) : ¬Shortens [] us := by
  intro h
  cases h

/-- What no cut makes is not in front unless it was. -/
theorem Token.Shortens.head_ne {t t' : Token} {ts us : List Token} (h : Shortens (t :: ts) us)
    (ht : t ≠ t') (ht' : ∀ t, ¬Cut t t') : ∀ vs, us ≠ t' :: vs := by
  rintro vs rfl
  cases h with
  | cut h => exact ht' _ h
  | cons => exact ht rfl

/-- What is left of a value does not start with a closing bracket either. -/
theorem Token.Shortens.ne_listClose {v : Json} {ts us : List Token}
    (h : Shortens (tokens v ++ ts) us) : ∀ vs, us ≠ .listClose :: vs := by
  obtain ⟨t, ws, hv, ht, -⟩ := exists_tokens_eq_cons v
  rw [hv, List.cons_append] at h
  exact h.head_ne ht fun _ hcut => nomatch hcut

/-! ## Lists -/

theorem listStart_of_shortens {v : Json} {ts us : List Token} (h : Shortens (tokens v ++ ts) us) :
    listStart us = .error .endOfInput ∨ listStart us = .ok (true, us) := by
  have hne := h.ne_listClose
  cases us with
  | nil => exact .inl rfl
  | cons t us =>
      refine .inr ?_
      rw [listStart]
      · exact nofun
      · exact hne

/-- Behind an item the end of the input is reported, unless there is a comma and some of the
next item. -/
theorem listNext_of_shortens {items : List Json} {us : List Token}
    (h : Shortens (furtherItems items ++ [.listClose]) us) :
    listNext us = .error .endOfInput ∨
      ∃ v rest vs, items = v :: rest ∧ us = .comma :: vs ∧ listNext us = .ok (true, vs) ∧
        Shortens (tokens v ++ (furtherItems rest ++ [.listClose])) vs := by
  cases items with
  | nil =>
      rw [furtherItems] at h
      rcases h.of_cons (by rintro _ ⟨⟩) with rfl | ⟨vs, -, hvs⟩
      · exact .inl rfl
      · exact absurd hvs (Token.not_shortens_nil vs)
  | cons v rest =>
      rw [furtherItems, List.cons_append, List.cons_append, List.append_assoc] at h
      rcases h.of_cons (by rintro _ ⟨⟩) with rfl | ⟨vs, rfl, hvs⟩
      · exact .inl rfl
      · have hne := hvs.ne_listClose
        cases vs with
        | nil => exact .inl rfl
        | cons t vs =>
            refine .inr ⟨v, rest, t :: vs, rfl, rfl, ?_, hvs⟩
            rw [listNext]
            · simp
            · exact hne

section Lists

variable {item : List Token → Except ε (α × List Token)} {write : α → Json} {size : Nat}

/-- A reader follows a value through at most so many tokens: it takes the value where that
is whole, and runs out where it is cut. -/
structure Follows (lift : Defect → ε) (item : List Token → Except ε (α × List Token))
    (write : α → Json) (size : Nat) (a : α) : Prop where
  whole : (tokens (write a)).length ≤ size → ReadsBack item write a
  cut : ∀ us, Shortens (tokens (write a)) us → us.length ≤ size → RunsOut lift (item us)

theorem readItems_of_shortens {a : α} {as : List α}
    (hitem : ∀ b ∈ a :: as, Follows lift item write size b) {us : List Token}
    (h : Shortens (tokens (write a) ++ (furtherItems (as.map write) ++ [.listClose])) us)
    (hsize : us.length ≤ size) {fuel : Nat} (hfuel : us.length < fuel) :
    readItems lift item fuel us = .error (lift .endOfInput) := by
  have ha := hitem a (by simp)
  induction fuel generalizing a as us with
  | zero => exact absurd hfuel (Nat.not_lt_zero _)
  | succ fuel ih =>
      rw [readItems]
      -- The cut is in this item, or the item is whole and the cut is behind it.
      rcases h.of_append with hcut | ⟨vs, rfl, hvs⟩
      · exact (ha.cut us hcut hsize).bind_eq_error fun _ => rfl
      · rw [List.length_append] at hsize hfuel
        rw [ha.whole (by omega)]
        rcases listNext_of_shortens hvs with hnext | ⟨v, rest, ws, hitems, rfl, hnext, hws⟩
        · simp only [hnext, Except.mapError, bind, Except.bind]
        · obtain ⟨b, bs, rfl, rfl, rfl⟩ := List.map_eq_cons_iff.mp hitems
          have hbs : ∀ c ∈ b :: bs, Follows lift item write size c :=
            fun c hc => hitem c (List.mem_cons_of_mem _ hc)
          rw [List.length_cons] at hsize hfuel
          have hread := ih hbs hws (by omega) (by omega) (hbs b (by simp))
          simp only [hnext, mapError_ok, bind, Except.bind, if_true, hread]

/-- Reading a list whose tokens stop early reports the end of the input. -/
theorem readList_of_shortens {as : List α} (hitem : ∀ a ∈ as, Follows lift item write size a)
    {us : List Token} (h : Shortens (tokens (.list (as.map write))) us) (hsize : us.length ≤ size)
    {fuel : Nat} (hfuel : us.length ≤ fuel) :
    us = [] ∨ ∃ vs, us = .listOpen :: vs ∧
      readList lift item fuel vs = .error (lift .endOfInput) := by
  cases as with
  | nil =>
      rw [List.map_nil, tokens] at h
      rcases h.of_cons (by rintro _ ⟨⟩) with rfl | ⟨vs, rfl, hvs⟩
      · exact .inl rfl
      · rcases hvs.of_cons (by rintro _ ⟨⟩) with rfl | ⟨ws, -, hws⟩
        · exact .inr ⟨[], rfl, rfl⟩
        · exact absurd hws (Token.not_shortens_nil ws)
  | cons a as =>
      rw [List.map_cons, tokens, List.cons_append, List.cons_append, List.append_assoc] at h
      rcases h.of_cons (by rintro _ ⟨⟩) with rfl | ⟨vs, rfl, hvs⟩
      · exact .inl rfl
      · refine .inr ⟨vs, rfl, ?_⟩
        rw [List.length_cons] at hsize hfuel
        have hread := readItems_of_shortens hitem hvs (by omega) hfuel
        rcases listStart_of_shortens hvs with hstart | hstart
        · simp only [readList, hstart, Except.mapError, bind, Except.bind]
        · simp only [readList, hstart, mapError_ok, bind, Except.bind, if_true, hread]

end Lists

/-! ## Records -/

/-- Behind the opening brace or a comma the end of the input is reported, unless there is the
whole key. -/
theorem key_of_shortens {k : String} {ts us : List Token} (h : Shortens (.text k :: ts) us) :
    key us = .error .endOfInput ∨ ∃ vs, us = .text k :: vs ∧ Shortens ts vs := by
  cases h with
  | stop => exact .inl rfl
  | cut h =>
      cases h
      exact .inl rfl
  | cons _ h => exact .inr ⟨_, rfl, h⟩

theorem recordStart_of_key {us : List Token} (h : key us = .error .endOfInput) :
    recordStart us = .error .endOfInput := by
  unfold recordStart
  split
  · cases h
  · rw [h]
    rfl

theorem recordNext_of_shortens {fields : List (String × Json)} {us : List Token}
    (h : Shortens (furtherFields fields ++ [.recordClose]) us) :
    recordNext us = .error .endOfInput ∨
      ∃ k v rest vs, fields = (k, v) :: rest ∧ us = .comma :: .text k :: vs ∧
        Shortens (.colon :: tokens v ++ (furtherFields rest ++ [.recordClose])) vs := by
  cases fields with
  | nil =>
      rw [furtherFields] at h
      rcases h.of_cons (by rintro _ ⟨⟩) with rfl | ⟨vs, -, hvs⟩
      · exact .inl rfl
      · exact absurd hvs (Token.not_shortens_nil vs)
  | cons f rest =>
      obtain ⟨k, v⟩ := f
      simp only [furtherFields, List.cons_append, List.append_assoc] at h
      rcases h.of_cons (by rintro _ ⟨⟩) with rfl | ⟨vs, rfl, hvs⟩
      · exact .inl rfl
      · rcases key_of_shortens hvs with hkey | ⟨ws, rfl, hws⟩
        · refine .inl ?_
          rw [recordNext, hkey]
          rfl
        · exact .inr ⟨k, v, rest, ws, rfl, rfl, hws⟩

section Records

variable {field : σ → String → List Token → Except ε (σ × List Token)} {size : Nat}

/-- A reader of fields follows the fields to come, `P`, through at most so many tokens: it
takes a field that is whole and goes on to the others, and runs out where one is cut. -/
structure FollowsFields (lift : Defect → ε)
    (field : σ → String → List Token → Except ε (σ × List Token)) (size : Nat)
    (P : σ → List (String × Json) → Prop) : Prop where
  whole : ∀ {s k v fields}, P s ((k, v) :: fields) → (tokens v).length ≤ size →
    ∃ s', (∀ ts, field s k (.colon :: (tokens v ++ ts)) = .ok (s', ts)) ∧ P s' fields
  cut : ∀ {s k v fields}, P s ((k, v) :: fields) → ∀ us, Shortens (.colon :: tokens v) us →
    us.length ≤ size → RunsOut lift (field s k us)

variable {P : σ → List (String × Json) → Prop}

theorem readFields_of_shortens (hfield : FollowsFields lift field size P) {s : σ} {k : String}
    {v : Json} {fields : List (String × Json)} (hP : P s ((k, v) :: fields)) {us : List Token}
    (h : Shortens (.colon :: tokens v ++ (furtherFields fields ++ [.recordClose])) us)
    (hsize : us.length ≤ size) {fuel : Nat} (hfuel : us.length < fuel) :
    readFields lift field fuel s k us = .error (lift .endOfInput) := by
  induction fuel generalizing s k v fields us with
  | zero => exact absurd hfuel (Nat.not_lt_zero _)
  | succ fuel ih =>
      rw [readFields]
      rcases h.of_append with hcut | ⟨vs, rfl, hvs⟩
      · exact (hfield.cut hP us hcut hsize).bind_eq_error fun _ => rfl
      · rw [List.length_append, List.length_cons] at hsize hfuel
        obtain ⟨s', hread, hP'⟩ := hfield.whole hP (by omega)
        rw [List.cons_append, hread]
        rcases recordNext_of_shortens hvs with hnext | ⟨l, w, rest, ws, rfl, rfl, hws⟩
        · simp only [hnext, Except.mapError, bind, Except.bind]
        · rw [List.length_cons, List.length_cons] at hsize hfuel
          exact ih hP' hws (by omega) (by omega)

/-- Reading a record whose tokens stop early reports the end of the input. -/
theorem readRecord_of_shortens (hfield : FollowsFields lift field size P) {s : σ}
    {fields : List (String × Json)} (hP : P s fields) {us : List Token}
    (h : Shortens (tokens (.record fields)) us) (hsize : us.length ≤ size) {fuel : Nat}
    (hfuel : us.length ≤ fuel) :
    us = [] ∨ ∃ vs, us = .recordOpen :: vs ∧
      readRecord lift field fuel s vs = .error (lift .endOfInput) := by
  cases fields with
  | nil =>
      rw [tokens] at h
      rcases h.of_cons (by rintro _ ⟨⟩) with rfl | ⟨vs, rfl, hvs⟩
      · exact .inl rfl
      · rcases hvs.of_cons (by rintro _ ⟨⟩) with rfl | ⟨ws, -, hws⟩
        · exact .inr ⟨[], rfl, rfl⟩
        · exact absurd hws (Token.not_shortens_nil ws)
  | cons f fields =>
      obtain ⟨k, v⟩ := f
      simp only [tokens, List.cons_append, List.append_assoc] at h
      rcases h.of_cons (by rintro _ ⟨⟩) with rfl | ⟨vs, rfl, hvs⟩
      · exact .inl rfl
      · refine .inr ⟨vs, rfl, ?_⟩
        rw [List.length_cons] at hsize hfuel
        rcases key_of_shortens hvs with hkey | ⟨ws, rfl, hws⟩
        · simp only [readRecord, recordStart_of_key hkey, Except.mapError, bind, Except.bind]
        · rw [List.length_cons] at hsize hfuel
          exact readFields_of_shortens hfield hP hws (by omega) (by omega)

end Records

/-! ## Values -/

section Values

variable {fuel room : Nat}

/-- A value of one token that stops early is not there or cut, and only of an integer
something can be read. -/
theorem head_of_shortens {t : Token} {us : List Token} (h : Shortens [t] us) :
    head us = .error .endOfInput ∨
      ∃ n k, t = .number (.ofInt n) ∧ us = [.number (.ofInt k)] ∧ Toward n k := by
  cases h with
  | stop => exact .inl rfl
  | cut h =>
      cases h with
      | digits h => exact .inr ⟨_, _, rfl, rfl, h⟩
      | _ => exact .inl rfl
  | cons _ h => exact absurd h (Token.not_shortens_nil _)

theorem read_of_shortens_token {t : Token} (ht : ∀ n, t ≠ .number n) {us : List Token}
    (h : Shortens [t] us) : read fuel room us = .error .endOfInput := by
  rcases head_of_shortens h with hhead | ⟨n, -, hn, -⟩
  · exact read_of_head_error hhead
  · exact absurd hn (ht _)

theorem Toward.bounds {n k : Int} (h : Toward n k) {lower upper : Int} (hlower : lower ≤ 0)
    (hupper : 0 ≤ upper) (hn : lower ≤ n ∧ n ≤ upper) : lower ≤ k ∧ k ≤ upper := by
  unfold Toward at h
  omega

theorem head_int {n : Int} (hmin : Text.minInt64 ≤ n) (hmax : n ≤ Text.maxWord) (ts : List Token) :
    head (.number (.ofInt n) :: ts) = .ok (.number (.int n), ts) := by
  simp only [head, Numeral.value?_ofInt hmin hmax]

theorem followsFields_pushField {value : List Token → Except Defect (Json × List Token)}
    {size : Nat} : FollowsFields id (pushField value) size
      fun _ fields => ∀ f ∈ fields, Follows id value id size f.2 where
  whole := by
    intro s k v fields h hsize
    have hv := (h (k, v) (by simp)).whole hsize
    refine ⟨s.push (k, v), ?_, fun f hf => h f (List.mem_cons_of_mem _ hf)⟩
    intro ts
    have hread : value (tokens v ++ ts) = .ok (v, ts) := hv ts
    simp only [pushField, colon, hread, bind, Except.bind]
  cut := by
    intro s k v fields h us hus hsize
    have hv := h (k, v) (by simp)
    rcases hus.of_cons (by rintro _ ⟨⟩) with rfl | ⟨vs, rfl, hvs⟩
    · exact .inl rfl
    · rw [List.length_cons] at hsize
      exact (hv.cut vs hvs (by omega)).bind fun _ => .inr ⟨_, rfl⟩

/-- What is read of a value that stops early: nothing, unless it is an integer that has lost
digits. -/
def Remains (v : Json) (x : Except Defect (Json × List Token)) : Prop :=
  x = .error .endOfInput ∨
    ∃ n k, v = .number (.int n) ∧ Toward n k ∧ x = .ok (.number (.int k), [])

theorem Remains.runsOut {v : Json} {x : Except Defect (Json × List Token)} (h : Remains v x) :
    RunsOut id x := by
  rcases h with h | ⟨n, k, -, -, h⟩
  · exact .inl h
  · exact .inr ⟨_, h⟩

theorem follows_read {v : Json} (h : Fits room v)
    (hcut : ∀ {us}, Shortens (tokens v) us → us.length ≤ fuel → Remains v (read fuel room us)) :
    Follows id (read fuel room) id fuel v :=
  ⟨read_tokens h, fun _ hus hsize => (hcut hus hsize).runsOut⟩

theorem remains_of_shortens {v : Json} (h : Fits room v) {us : List Token}
    (hus : Shortens (tokens v) us) (hsize : us.length ≤ fuel) :
    Remains v (read fuel room us) := by
  induction h generalizing us with
  | null =>
      rw [tokens] at hus
      exact .inl (read_of_shortens_token (by simp) hus)
  | bool b =>
      rw [tokens] at hus
      exact .inl (read_of_shortens_token (by simp) hus)
  | @int _ n hmin hmax =>
      rw [tokens, Number.token_int] at hus
      rcases head_of_shortens hus with hhead | ⟨n', k, hn, rfl, hk⟩
      · exact .inl (read_of_head_error hhead)
      · cases Numeral.ofInt_inj (Token.number.inj hn)
        obtain ⟨hkmin, hkmax⟩ := hk.bounds (by decide) (by decide) ⟨hmin, hmax⟩
        exact .inr ⟨n, k, rfl, hk,
          read_of_head (head_int hkmin hkmax []) rfl (by simp) (by simp)⟩
  | text s =>
      rw [tokens] at hus
      exact .inl (read_of_shortens_token (by simp) hus)
  | @list room items hitems ih =>
      have hfollows : ∀ v ∈ items, Follows id (read fuel room) id fuel v :=
        fun v hv => follows_read (hitems v hv) (ih v hv)
      rw [← List.map_id items] at hus
      rcases readList_of_shortens hfollows hus hsize hsize with rfl | ⟨vs, rfl, hread⟩
      · exact .inl rfl
      · rw [read_listOpen, hread]
        exact .inl rfl
  | @record room fields hfields ih =>
      have hfollows : ∀ f ∈ fields, Follows id (read fuel room) id fuel f.2 :=
        fun f hf => follows_read (hfields f hf) (ih f hf)
      have hrecord := readRecord_of_shortens followsFields_pushField (s := #[]) hfollows hus hsize
        hsize
      rcases hrecord with rfl | ⟨vs, rfl, hread⟩
      · exact .inl rfl
      · rw [read_recordOpen, hread]
        exact .inl rfl

end Values

end RegisterMachine.Json
