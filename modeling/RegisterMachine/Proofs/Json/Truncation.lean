import RegisterMachine.Proofs.Json.Read

/-!
# Texts that stop early

When the text of a value stops early, its tokens stop early: the first ones are as they
were, and behind them there may be one more that has been cut (`Token.Cut`). A string or
a literal is broken by the cut, and an integer is broken or becomes a shorter one, which
lies between zero and the integer. `Token.Shortens` says so of sequences of tokens, and
`Token.stopsAnywhere_of_fits` that a written value can stop at no place where its tokens
would turn into anything else.
-/

namespace RegisterMachine.Json

/-- An integer that lies between zero and another, and is not zero where that would lose a
sign. -/
def Toward (n k : Int) : Prop := 0 ≤ k ∧ k ≤ n ∨ n ≤ k ∧ k < 0

namespace Token

/-! ## Tokens that have been cut -/

/-- What a token becomes when the text stops inside it: a number that has digits left is a shorter
number, and everything else is broken. -/
inductive Cut : Token → Token → Prop
  | text (s : String) (skipping : Defect) : Cut (.text s) (.brokenText .endOfInput skipping)
  | null (skipping : Defect) : Cut .null (.brokenScalar .endOfInput skipping)
  | bool (b : Bool) (skipping : Defect) : Cut (.bool b) (.brokenScalar .endOfInput skipping)
  | sign (n : Int) (skipping : Defect) :
      Cut (.number (.ofInt n)) (.brokenScalar .endOfInput skipping)
  | digits {n k : Int} (h : Toward n k) : Cut (.number (.ofInt n)) (.number (.ofInt k))

/-- What tokens become when the text stops before their end: the first of them, and then
at most one that has been cut. -/
inductive Shortens : List Token → List Token → Prop
  | stop (t : Token) (ts : List Token) : Shortens (t :: ts) []
  | cut {t t' : Token} (h : Cut t t') (ts : List Token) : Shortens (t :: ts) [t']
  | cons (t : Token) {ts us : List Token} (h : Shortens ts us) : Shortens (t :: ts) (t :: us)

theorem Shortens.append_right {ts us : List Token} (h : Shortens ts us) (rest : List Token) :
    Shortens (ts ++ rest) us := by
  induction h with
  | stop t ts => exact .stop t _
  | cut h ts => exact .cut h _
  | cons t _ ih => exact .cons t ih

theorem Shortens.append_left {ts us : List Token} (h : Shortens ts us) (front : List Token) :
    Shortens (front ++ ts) (front ++ us) := by
  induction front with
  | nil => exact h
  | cons t front ih => exact .cons t ih

/-- The cut is in the first part, or in the second and the first is whole. -/
theorem Shortens.of_append {front ts us : List Token} (h : Shortens (front ++ ts) us) :
    Shortens front us ∨ ∃ vs, us = front ++ vs ∧ Shortens ts vs := by
  induction front generalizing us with
  | nil => exact .inr ⟨us, rfl, h⟩
  | cons t front ih =>
      cases h with
      | stop => exact .inl (.stop t front)
      | cut h => exact .inl (.cut h front)
      | cons _ h =>
          rcases ih h with hfront | ⟨vs, rfl, hvs⟩
          · exact .inl (.cons t hfront)
          · exact .inr ⟨vs, rfl, hvs⟩

/-! ## Where a text may stop -/

/-- Wherever a text stops, what is scanned is its tokens or what they become when it stops
early. -/
def Stops (cs : List Char) (ts : List Token) : Prop :=
  ∀ pre, pre <+: cs → scan pre = ts ∨ Shortens ts (scan pre)

theorem prefix_append_cases {pre front cs : List Char} (h : pre <+: front ++ cs) :
    pre <+: front ∨ ∃ rest, pre = front ++ rest ∧ rest <+: cs := by
  rcases List.prefix_or_prefix_of_prefix h (List.prefix_append front cs) with hpre | ⟨rest, rfl⟩
  · exact .inl hpre
  · exact .inr ⟨rest, rfl, (List.prefix_append_right_inj front).mp h⟩

/-- Texts one behind the other, if the tokens of the first do not depend on how much there is
of the second. -/
theorem Stops.append {front cs : List Char} {ts us : List Token} (hfront : Stops front ts)
    (hscan : ∀ rest, rest <+: cs → scan (front ++ rest) = ts ++ scan rest) (hcs : Stops cs us) :
    Stops (front ++ cs) (ts ++ us) := by
  intro pre hpre
  rcases prefix_append_cases hpre with hpre | ⟨rest, rfl, hrest⟩
  · rcases hfront pre hpre with heq | hshort
    · rw [heq]
      cases us with
      | nil => exact .inl (List.append_nil ts).symm
      | cons t us =>
          have hstop := (Shortens.stop t us).append_left ts
          rw [List.append_nil] at hstop
          exact .inr hstop
    · exact .inr (hshort.append_right us)
  · rw [hscan rest hrest]
    rcases hcs rest hrest with heq | hshort
    · exact .inl (by rw [heq])
    · exact .inr (hshort.append_left ts)

theorem stops_blanks {blanks : List Char} (h : ∀ c ∈ blanks, isSpace c) : Stops blanks [] := by
  intro pre hpre
  have hscan := scan_spaces (fun c hc => h c (hpre.subset hc)) []
  rw [List.append_nil, scan_nil] at hscan
  exact .inl hscan

theorem stops_punctuation {c : Char} {t : Token} (hspace : isSpace c = false)
    (h : punctuation? c = some t) : Stops [c] [t] := by
  intro pre hpre
  rcases List.prefix_cons_iff.mp hpre with rfl | ⟨rest, rfl, hrest⟩
  · rw [scan_nil]
    exact .inr (.stop t [])
  · rw [List.prefix_nil.mp hrest, scan_of_punctuation hspace h, scan_nil]
    exact .inl rfl

/-- A text that cannot be cut any further is one last token. -/
theorem scan_of_next_none {c : Char} {cs : List Char} {t : Token} (hspace : isSpace c = false)
    (h : next c cs = (t, none)) : scan (c :: cs) = [t] := by
  rw [scan, if_neg (by rw [hspace]; decide)]
  split
  · next token rest h' =>
      rw [h'] at h
      cases h
  · next token h' =>
      rw [h'] at h
      cases h
      rfl

theorem expect_of_prefix {due rest : List Char} (h : rest <+: due) (hne : rest ≠ due) :
    expect due rest = .error .endOfInput := by
  induction due generalizing rest with
  | nil => exact absurd (List.prefix_nil.mp h) hne
  | cons d due ih =>
      rcases List.prefix_cons_iff.mp h with rfl | ⟨rest, rfl, hrest⟩
      · rw [expect]
      · rw [expect, if_pos rfl]
        exact ih hrest fun heq => hne (by rw [heq])

theorem stops_literal {c : Char} {due : List Char} {t : Token} (hspace : isSpace c = false)
    (hpunctuation : punctuation? c = none) (hquote : c ≠ '"') (h : literal? c = some (due, t))
    (hcut : Cut t (.brokenScalar .endOfInput .endOfInput)) : Stops (c :: due) [t] := by
  intro pre hpre
  rcases List.prefix_cons_iff.mp hpre with rfl | ⟨rest, rfl, hrest⟩
  · rw [scan_nil]
    exact .inr (.stop t [])
  · by_cases heq : rest = due
    · have hscan := scan_of_literal hspace hpunctuation hquote h []
      rw [List.append_nil, scan_nil] at hscan
      rw [heq]
      exact .inl hscan
    · have hexpect := expect_of_prefix hrest heq
      have hnext : next c rest = (.brokenScalar .endOfInput .endOfInput, none) := by
        simp only [next, hpunctuation, if_neg hquote, h, hexpect]
      rw [scan_of_next_none hspace hnext]
      exact .inr (.cut hcut [])

theorem stops_null : Stops ['n', 'u', 'l', 'l'] [.null] :=
  stops_literal (by decide) (by decide) (by decide) (by decide) (.null _)

theorem stops_boolean (b : Bool) : Stops (boolean b) [.bool b] := by
  cases b with
  | false => exact stops_literal (by decide) (by decide) (by decide) (by decide) (.bool _ _)
  | true => exact stops_literal (by decide) (by decide) (by decide) (by decide) (.bool _ _)

/-! ## Strings -/

/-- An item that stands for a character on its own leaves open what may follow. -/
theorem canContinue_cons {p : Piece} {c : Char}
    (h : ∀ ps, assemble? (p :: ps) = (assemble? ps).map (c :: ·)) (ps : List Piece) :
    canContinue (p :: ps) = canContinue ps := by
  have hnil := h []
  cases p with
  | char => rw [canContinue]
  | unit n =>
      have hleading : isLeading n = false := by
        cases hlead : isLeading n with
        | false => rfl
        | true => simp [assemble?.eq_def, hlead] at hnil
      have htrailing : isTrailing n = false := by
        cases htrail : isTrailing n with
        | false => rfl
        | true => simp [assemble?.eq_def, hleading, htrail] at hnil
      rw [canContinue.eq_def]
      simp [hleading, htrailing]

/-- A character is written as it is, as a letter behind a backslash, or by its code. -/
theorem escapeChar_cases (c : Char) :
    escapeChar c = [c] ∨ (∃ e, escapeChar c = ['\\', e]) ∨
      ∃ n < 32, escapeChar c = '\\' :: 'u' :: unitDigits n := by
  fun_cases escapeChar c with
  | case8 _ _ _ _ _ _ _ hcontrol => exact .inr (.inr ⟨c.toNat, hcontrol, rfl⟩)
  | case9 => exact .inl rfl
  | _ => exact .inr (.inl ⟨_, rfl⟩)

/-- A code that lacks some of its four digits has been cut off. -/
theorem pieces_take_unit : ∀ n < 32, ∀ k < 6,
    pieces (('\\' :: 'u' :: unitDigits n).take k) = ([], .cut .endOfInput) := by
  decide

theorem pieces_of_prefix_escapeChar {c : Char} {pre : List Char} (h : pre <+: escapeChar c)
    (hne : pre ≠ escapeChar c) : pieces pre = ([], .cut .endOfInput) := by
  rcases escapeChar_cases c with hc | ⟨e, hc⟩ | ⟨n, hn, hc⟩
  · rw [hc] at h hne
    rcases List.prefix_cons_iff.mp h with rfl | ⟨rest, rfl, hrest⟩
    · rw [pieces]
    · cases List.prefix_nil.mp hrest
      exact absurd rfl hne
  · rw [hc] at h hne
    rcases List.prefix_cons_iff.mp h with rfl | ⟨rest, rfl, hrest⟩
    · rw [pieces]
    · rcases List.prefix_cons_iff.mp hrest with rfl | ⟨tail, rfl, htail⟩
      · rw [pieces]
      · cases List.prefix_nil.mp htail
        exact absurd rfl hne
  · rw [hc] at h hne
    have hlength : ('\\' :: 'u' :: unitDigits n).length = 6 := by
      rw [unitDigits_eq n hn]
      rfl
    have hlt : pre.length < 6 := by
      rw [← hlength]
      exact Nat.lt_of_le_of_ne h.length_le fun heq => hne (h.eq_of_length heq)
    rw [List.prefix_iff_eq_take.mp h]
    exact pieces_take_unit n hn pre.length hlt

/-- A string that stops before its closing quote has been cut off, and all that stands before
may still become a text. -/
theorem pieces_of_prefix {cs pre : List Char} (h : pre <+: cs.flatMap escapeChar) :
    ∃ ps, pieces pre = (ps, .cut .endOfInput) ∧ canContinue ps := by
  induction cs generalizing pre with
  | nil =>
      rw [List.flatMap_nil] at h
      rw [List.prefix_nil.mp h]
      exact ⟨[], by rw [pieces], rfl⟩
  | cons c cs ih =>
      rw [List.flatMap_cons] at h
      have hwhole : ∀ rest, rest <+: cs.flatMap escapeChar →
          ∃ ps, pieces (escapeChar c ++ rest) = (ps, .cut .endOfInput) ∧ canContinue ps := by
        intro rest hrest
        obtain ⟨ps, hps, hcontinue⟩ := ih hrest
        obtain ⟨p, hp, hassemble⟩ := pieces_escapeChar c rest
        refine ⟨p :: ps, ?_, ?_⟩
        · rw [hp, hps, Piece.cons]
        · rw [canContinue_cons hassemble, hcontinue]
      rcases prefix_append_cases h with hpre | ⟨rest, rfl, hrest⟩
      · by_cases heq : pre = escapeChar c
        · have hall := hwhole [] (List.nil_prefix)
          rwa [List.append_nil, ← heq] at hall
        · exact ⟨[], pieces_of_prefix_escapeChar hpre heq, rfl⟩
      · exact hwhole rest hrest

theorem stops_string (s : String) : Stops (string s) [.text s] := by
  intro pre hpre
  rcases List.prefix_cons_iff.mp hpre with rfl | ⟨rest, rfl, hrest⟩
  · rw [scan_nil]
    exact .inr (.stop _ [])
  · rcases List.prefix_concat_iff.mp hrest with rfl | hrest
    · have hscan := scan_string s []
      rw [List.append_nil, scan_nil] at hscan
      exact .inl hscan
    · obtain ⟨ps, hps, hcontinue⟩ := pieces_of_prefix hrest
      have hpunctuation : punctuation? '"' = none := by decide
      have hnext : next '"' rest = (.brokenText .endOfInput .endOfInput, none) := by
        simp only [next, hpunctuation, if_true, hps, ofCut, hcontinue]
      rw [scan_of_next_none (by decide) hnext]
      exact .inr (.cut (.text s _) [])

/-! ## Numbers -/

/-- The first digits of a number are those of a smaller one, which is zero only if the
number is. -/
theorem exists_natDigits_eq {n : Nat} {pre : List Char} (h : pre <+: Text.natDigits n)
    (hne : pre ≠ []) : ∃ k ≤ n, pre = Text.natDigits k ∧ (0 < n → 0 < k) := by
  induction n using Nat.strongRecOn with
  | ind n ih =>
      by_cases hlt : n < 10
      · have hdigits := h
        rw [Text.natDigits_of_lt hlt] at hdigits
        rcases List.prefix_cons_iff.mp hdigits with rfl | ⟨rest, rfl, hrest⟩
        · exact absurd rfl hne
        · rw [List.prefix_nil.mp hrest]
          exact ⟨n, Nat.le_refl n, (Text.natDigits_of_lt hlt).symm, id⟩
      · have hdigits := Text.natDigits_of_le (Nat.le_of_not_lt hlt)
        rw [hdigits, List.prefix_concat_iff, ← hdigits] at h
        rcases h with rfl | h
        · exact ⟨n, Nat.le_refl n, rfl, id⟩
        · obtain ⟨k, hle, hk, hpos⟩ := ih (n / 10) (by omega) h
          exact ⟨k, by omega, hk, fun _ => hpos (by omega)⟩

theorem scan_minus : scan ['-'] = [.brokenScalar .endOfInput .malformed] :=
  scan_of_next_none (by decide) (by decide)

/-- An integer that stops early is a sign alone or an integer on the way to it. -/
theorem stops_intDigits (n : Int) : Stops (Text.intDigits n) [.number (.ofInt n)] := by
  have hscan : ∀ k : Int, scan (Text.intDigits k) = [.number (.ofInt k)] := by
    intro k
    have hdigits := scan_intDigits k endsNumeral_nil
    rwa [List.append_nil, scan_nil] at hdigits
  have hcut : ∀ k : Int, Toward n k →
      Shortens [.number (.ofInt n)] (scan (Text.intDigits k)) := by
    intro k hk
    rw [hscan k]
    exact .cut (.digits hk) []
  intro pre hpre
  by_cases hne : pre = []
  · rw [hne, scan_nil]
    exact .inr (.stop _ [])
  cases n with
  | ofNat n =>
      obtain ⟨k, hle, rfl, -⟩ := exists_natDigits_eq hpre hne
      exact .inr (hcut k (.inl ⟨Int.natCast_nonneg k, Int.ofNat_le.mpr hle⟩))
  | negSucc n =>
      obtain ⟨rest, rfl, hrest⟩ := (List.prefix_cons_iff.mp hpre).resolve_left hne
      by_cases hnil : rest = []
      · rw [hnil, scan_minus]
        exact .inr (.cut (.sign _ _) [])
      · obtain ⟨k, hle, rfl, hpos⟩ := exists_natDigits_eq hrest hnil
        obtain ⟨k, rfl⟩ := Nat.exists_eq_succ_of_ne_zero (Nat.ne_of_gt (hpos (Nat.succ_pos n)))
        exact .inr (hcut (.negSucc k) (.inr ⟨by omega, by omega⟩))

/-! ## Values -/

theorem EndsNumeral.of_prefix {cs pre : List Char} (h : EndsNumeral cs) (hpre : pre <+: cs) :
    EndsNumeral pre := by
  cases pre with
  | nil => exact endsNumeral_nil
  | cons c pre =>
      obtain ⟨rest, rfl⟩ := hpre
      exact endsNumeral_cons pre (h c rfl)

section Front

variable {cs : List Char} {ts : List Token}

theorem Stops.blanks {blanks : List Char} (hblanks : ∀ c ∈ blanks, isSpace c)
    (h : Stops cs ts) : Stops (blanks ++ cs) ts :=
  (stops_blanks hblanks).append (fun rest _ => scan_spaces hblanks rest) h

theorem Stops.newline (level : Nat) (h : Stops cs ts) : Stops (newline level ++ cs) ts :=
  .blanks (isSpace_of_mem_newline level) h

theorem Stops.punctuation {c : Char} {t : Token} (hspace : isSpace c = false)
    (hc : punctuation? c = some t) (h : Stops cs ts) : Stops (c :: cs) (t :: ts) :=
  (stops_punctuation hspace hc).append (fun rest _ => scan_of_punctuation hspace hc rest) h

theorem Stops.comma (h : Stops cs ts) : Stops (',' :: cs) (.comma :: ts) :=
  .punctuation (by decide) (by decide) h

theorem Stops.string (s : String) (h : Stops cs ts) : Stops (string s ++ cs) (.text s :: ts) :=
  (stops_string s).append (fun rest _ => scan_string s rest) h

end Front

def StopsAnywhere (v : Json) : Prop :=
  ∀ level cs ts, EndsNumeral cs → Stops cs ts → Stops (pretty level v ++ cs) (tokens v ++ ts)

theorem stops_prettyItems (level : Nat) {v : Json} {items : List Json}
    (h : ∀ u ∈ v :: items, StopsAnywhere u) {cs : List Char} {ts : List Token}
    (hends : EndsNumeral cs) (hcs : Stops cs ts) :
    Stops (prettyItems level (v :: items) ++ cs) (tokens v ++ (furtherItems items ++ ts)) := by
  induction items generalizing v with
  | nil =>
      rw [prettyItems, furtherItems]
      exact h v (by simp) level cs ts hends hcs
  | cons w items ih =>
      have hitems := ih fun u hu => h u (List.mem_cons_of_mem _ hu)
      simp only [prettyItems, furtherItems, List.append_assoc, List.cons_append]
      exact h v (by simp) level _ _ (endsNumeral_comma _) (.comma (.newline level hitems))

theorem stops_prettyField (level : Nat) (k : String) {v : Json} (hv : StopsAnywhere v)
    {cs : List Char} {ts : List Token} (hends : EndsNumeral cs) (hcs : Stops cs ts) :
    Stops (string k ++ ':' :: ' ' :: (pretty level v ++ cs))
      (.text k :: .colon :: (tokens v ++ ts)) := by
  have hvalue := hv level cs ts hends hcs
  have hblank : ∀ c ∈ [' '], isSpace c := by simp [isSpace]
  exact .string k (.punctuation (by decide) (by decide) (.blanks hblank hvalue))

theorem stops_prettyFields (level : Nat) {k : String} {v : Json} {fields : List (String × Json)}
    (h : ∀ f ∈ (k, v) :: fields, StopsAnywhere f.2) {cs : List Char} {ts : List Token}
    (hends : EndsNumeral cs) (hcs : Stops cs ts) :
    Stops (prettyFields level ((k, v) :: fields) ++ cs)
      (.text k :: .colon :: (tokens v ++ (furtherFields fields ++ ts))) := by
  have hv : StopsAnywhere v := h (k, v) (by simp)
  induction fields generalizing k v with
  | nil =>
      simp only [prettyFields, furtherFields, List.append_assoc, List.cons_append]
      exact stops_prettyField level k hv hends hcs
  | cons f fields ih =>
      obtain ⟨l, w⟩ := f
      have hfields : ∀ g ∈ (l, w) :: fields, StopsAnywhere g.2 :=
        fun g hg => h g (List.mem_cons_of_mem _ hg)
      have hrest := ih hfields (hfields (l, w) (by simp))
      simp only [prettyFields, furtherFields, List.append_assoc, List.cons_append]
      exact stops_prettyField level k hv (endsNumeral_comma _) (.comma (.newline level hrest))

theorem stopsAnywhere_list {items : List Json} (h : ∀ v ∈ items, StopsAnywhere v) :
    StopsAnywhere (.list items) := by
  intro level cs ts _ hcs
  have hclose : Stops (']' :: cs) (.listClose :: ts) := .punctuation (by decide) (by decide) hcs
  cases items with
  | nil =>
      simp only [pretty, tokens, List.cons_append, List.nil_append]
      exact .punctuation (by decide) (by decide) hclose
  | cons v items =>
      have hitems := stops_prettyItems (level + 1) h (endsNumeral_newline level _)
        (.newline level hclose)
      simp only [pretty, tokens, List.append_assoc, List.cons_append, List.nil_append]
      exact .punctuation (by decide) (by decide) (.newline _ hitems)

theorem stopsAnywhere_record {fields : List (String × Json)}
    (h : ∀ f ∈ fields, StopsAnywhere f.2) : StopsAnywhere (.record fields) := by
  intro level cs ts _ hcs
  have hclose : Stops ('\x7d' :: cs) (.recordClose :: ts) :=
    .punctuation (by decide) (by decide) hcs
  cases fields with
  | nil =>
      simp only [pretty, tokens, List.cons_append, List.nil_append]
      exact .punctuation (by decide) (by decide) hclose
  | cons f fields =>
      obtain ⟨k, v⟩ := f
      have hfields := stops_prettyFields (level + 1) h (endsNumeral_newline level _)
        (.newline level hclose)
      simp only [pretty, tokens, List.append_assoc, List.cons_append, List.nil_append]
      exact .punctuation (by decide) (by decide) (.newline _ hfields)

/-- A written value may stop anywhere. -/
theorem stopsAnywhere_of_fits {room : Nat} {v : Json} (h : Fits room v) : StopsAnywhere v := by
  induction h with
  | null =>
      intro level cs ts _ hcs
      rw [pretty, tokens]
      exact stops_null.append (fun rest _ => scan_null rest) hcs
  | bool b =>
      intro level cs ts _ hcs
      rw [pretty, tokens]
      exact (stops_boolean b).append (fun rest _ => scan_boolean b rest) hcs
  | @int _ n _ _ =>
      intro level cs ts hends hcs
      rw [pretty, tokens, Number.write, Number.token_int]
      exact (stops_intDigits n).append
        (fun rest hrest => scan_intDigits n (hends.of_prefix hrest)) hcs
  | text s =>
      intro level cs ts _ hcs
      rw [pretty, tokens]
      exact .string s hcs
  | list _ ih => exact stopsAnywhere_list ih
  | record _ ih => exact stopsAnywhere_record ih

theorem stops_listBody (level : Nat) {items : List Json} (h : ∀ v ∈ items, StopsAnywhere v) :
    ∃ body ts, pretty level (.list items) = body ++ [']'] ∧
      tokens (.list items) = ts ++ [.listClose] ∧ Stops body ts := by
  cases items with
  | nil =>
      refine ⟨['['], [.listOpen], by rw [pretty]; rfl, by rw [tokens]; rfl, ?_⟩
      exact stops_punctuation (by decide) (by decide)
  | cons v items =>
      have hblanks := stops_blanks (isSpace_of_mem_newline level)
      rw [← List.append_nil (newline level)] at hblanks
      have hitems := stops_prettyItems (level + 1) h (endsNumeral_newline level []) hblanks
      refine ⟨'[' :: (newline (level + 1) ++ (prettyItems (level + 1) (v :: items) ++
        newline level)), .listOpen :: (tokens v ++ furtherItems items), ?_, ?_, ?_⟩
      · simp [pretty]
      · simp [tokens]
      · rw [List.append_nil, List.append_nil] at hitems
        exact .punctuation (by decide) (by decide) (.newline _ hitems)

/-- The text of a list that stops before its end gives tokens that stop before their
end. -/
theorem shortens_of_prefix {room level : Nat} {items : List Json} (h : Fits room (.list items))
    {pre : List Char} (hpre : pre <+: pretty level (.list items))
    (hne : pre ≠ pretty level (.list items)) : Shortens (tokens (.list items)) (scan pre) := by
  have hitems : ∀ v ∈ items, StopsAnywhere v := by
    cases h with
    | list h => exact fun v hv => stopsAnywhere_of_fits (h v hv)
  obtain ⟨body, ts, hbody, htokens, hstops⟩ := stops_listBody level hitems
  rw [hbody] at hpre hne
  rw [htokens]
  rcases hstops pre ((List.prefix_concat_iff.mp hpre).resolve_left hne) with heq | hshort
  · have hstop := (Shortens.stop .listClose []).append_left ts
    rw [List.append_nil] at hstop
    rwa [heq]
  · exact hshort.append_right _

end Token

end RegisterMachine.Json
