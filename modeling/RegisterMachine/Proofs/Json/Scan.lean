import RegisterMachine.Proofs.Json.Numeral

/-!
# Scanning what was written

A value has its tokens (`Json.tokens`), whatever the layout it is written in. Scanning a
written value gives just these, so a reader of tokens need not know of layouts, escapes
or digits. A value that comes back as it was is one that `Json.Fits`: a double may be off
in its last place when it is read, and brackets nest only so deep.
-/

namespace RegisterMachine.Json

/-! ## The tokens of a value -/

def Number.token (n : Number) : Token :=
  match Token.numeral (Number.write n) with
  | .ok (numeral, _) => .number numeral
  | .error _ => .junk

theorem Number.token_int (n : Int) : Number.token (.int n) = .number (.ofInt n) := by
  have hnumeral := Token.numeral_intDigits n Token.endsNumeral_nil
  rw [List.append_nil] at hnumeral
  rw [Number.token, Number.write, hnumeral]

mutual

def tokens : Json → List Token
  | .null => [.null]
  | .bool b => [.bool b]
  | .number n => [Number.token n]
  | .text s => [.text s]
  | .list [] => [.listOpen, .listClose]
  | .list (v :: items) => .listOpen :: tokens v ++ furtherItems items ++ [.listClose]
  | .record [] => [.recordOpen, .recordClose]
  | .record ((k, v) :: fields) =>
    .recordOpen :: .text k :: .colon :: tokens v ++ furtherFields fields ++ [.recordClose]

def furtherItems : List Json → List Token
  | [] => []
  | v :: items => .comma :: tokens v ++ furtherItems items

def furtherFields : List (String × Json) → List Token
  | [] => []
  | (k, v) :: fields => .comma :: .text k :: .colon :: tokens v ++ furtherFields fields

end

/-- A value that comes back as it was written: its numbers are integers that a word of 64
bits holds, signed or unsigned, and its brackets nest at most so deep. -/
inductive Fits : Nat → Json → Prop
  | null {room : Nat} : Fits room .null
  | bool {room : Nat} (b : Bool) : Fits room (.bool b)
  | int {room : Nat} {n : Int} (hmin : Text.minInt64 ≤ n) (hmax : n ≤ Text.maxWord) :
      Fits room (.number (.int n))
  | text {room : Nat} (s : String) : Fits room (.text s)
  | list {room : Nat} {items : List Json} (h : ∀ v ∈ items, Fits room v) :
      Fits (room + 1) (.list items)
  | record {room : Nat} {fields : List (String × Json)} (h : ∀ f ∈ fields, Fits room f.2) :
      Fits (room + 1) (.record fields)

namespace Token

/-! ## One token -/

theorem scan_nil : scan [] = [] := by
  rw [scan]

theorem scan_of_isSpace {c : Char} (h : isSpace c) (cs : List Char) :
    scan (c :: cs) = scan cs := by
  rw [scan, if_pos h]

theorem scan_spaces {blanks : List Char} (h : ∀ c ∈ blanks, isSpace c) (cs : List Char) :
    scan (blanks ++ cs) = scan cs := by
  induction blanks with
  | nil => rfl
  | cons c blanks ih =>
      rw [List.cons_append, scan_of_isSpace (h c (by simp))]
      exact ih (fun d hd => h d (by simp [hd]))

theorem isSpace_of_mem_newline (level : Nat) : ∀ c ∈ newline level, isSpace c := by
  intro c hc
  rw [newline, List.mem_cons, List.mem_replicate] at hc
  rcases hc with rfl | ⟨_, rfl⟩
  · decide
  · decide

theorem scan_newline (level : Nat) (cs : List Char) : scan (newline level ++ cs) = scan cs :=
  scan_spaces (isSpace_of_mem_newline level) cs

theorem scan_of_next {c : Char} {cs rest : List Char} {t : Token} (hspace : isSpace c = false)
    (h : next c cs = (t, some rest)) : scan (c :: cs) = t :: scan rest := by
  rw [scan, if_neg (by rw [hspace]; decide)]
  split
  · next token rest' h' =>
      rw [h'] at h
      cases h
      rfl
  · next token h' =>
      rw [h'] at h
      cases h

theorem scan_of_punctuation {c : Char} {t : Token} (hspace : isSpace c = false)
    (h : punctuation? c = some t) (cs : List Char) : scan (c :: cs) = t :: scan cs := by
  apply scan_of_next hspace
  rw [next, h]

theorem scan_comma (cs : List Char) : scan (',' :: cs) = .comma :: scan cs :=
  scan_of_punctuation (by decide) (by decide) cs

theorem scan_colon (cs : List Char) : scan (':' :: cs) = .colon :: scan cs :=
  scan_of_punctuation (by decide) (by decide) cs

theorem scan_listOpen (cs : List Char) : scan ('[' :: cs) = .listOpen :: scan cs :=
  scan_of_punctuation (by decide) (by decide) cs

theorem scan_listClose (cs : List Char) : scan (']' :: cs) = .listClose :: scan cs :=
  scan_of_punctuation (by decide) (by decide) cs

theorem scan_recordOpen (cs : List Char) : scan ('\x7b' :: cs) = .recordOpen :: scan cs :=
  scan_of_punctuation (by decide) (by decide) cs

theorem scan_recordClose (cs : List Char) : scan ('\x7d' :: cs) = .recordClose :: scan cs :=
  scan_of_punctuation (by decide) (by decide) cs

theorem scan_of_literal {c : Char} {due : List Char} {t : Token} (hspace : isSpace c = false)
    (hpunctuation : punctuation? c = none) (hquote : c ≠ '"')
    (h : literal? c = some (due, t)) (cs : List Char) :
    scan (c :: (due ++ cs)) = t :: scan cs := by
  have hexpect : expect due (due ++ cs) = .ok cs := by
    clear h
    induction due with
    | nil => rw [List.nil_append, expect]
    | cons d due ih => rw [List.cons_append, expect, if_pos rfl, ih]
  apply scan_of_next hspace
  simp only [next, hpunctuation, if_neg hquote, h, hexpect]

theorem scan_null (cs : List Char) : scan (['n', 'u', 'l', 'l'] ++ cs) = .null :: scan cs :=
  scan_of_literal (by decide) (by decide) (by decide) (by decide) cs

theorem scan_boolean (b : Bool) (cs : List Char) : scan (boolean b ++ cs) = .bool b :: scan cs := by
  cases b with
  | false => exact scan_of_literal (by decide) (by decide) (by decide) (by decide) cs
  | true => exact scan_of_literal (by decide) (by decide) (by decide) (by decide) cs

/-! ## Strings -/

theorem unitDigits_eq : ∀ n < 32,
    unitDigits n = ['0', '0', (n / 16).digitChar, (n % 16).digitChar] := by
  decide

theorem hexUnit?_digitChar : ∀ n < 32,
    hexUnit? '0' '0' (n / 16).digitChar (n % 16).digitChar = some n := by
  decide

theorem pieces_escape {e c : Char} (h : escape? e = some c) (hu : e ≠ 'u') (cs : List Char) :
    pieces ('\\' :: e :: cs) = Piece.cons (.char c) (pieces cs) := by
  rw [pieces]
  · rw [h]
  · intro _ _ _ _ _ he
    exact absurd he hu
  · exact hu

theorem pieces_unit {n : Nat} (h : n < 32) (cs : List Char) :
    pieces ('\\' :: 'u' :: unitDigits n ++ cs) = Piece.cons (.unit n) (pieces cs) := by
  rw [unitDigits_eq n h]
  show pieces ('\\' :: 'u' :: '0' :: '0' :: (n / 16).digitChar :: (n % 16).digitChar :: cs) = _
  rw [pieces, hexUnit?_digitChar n h]

theorem pieces_plain {c : Char} (hquote : c ≠ '"') (hslash : c ≠ '\\') (h : ¬c < ' ')
    (cs : List Char) : pieces (c :: cs) = Piece.cons (.char c) (pieces cs) := by
  rw [pieces]
  · rw [if_neg h]
  · exact hquote
  · intro _ _ _ _ _ hc
    exact absurd hc hslash
  · intro _ hc
    exact absurd hc hslash
  · intro _ _ hc
    exact absurd hc hslash
  · intro hc
    exact absurd hc hslash

theorem assemble?_char (c : Char) (ps : List Piece) :
    assemble? (.char c :: ps) = (assemble? ps).map (c :: ·) := by
  rw [assemble?]

theorem assemble?_unit {c : Char} (h : c.toNat < 32) (ps : List Piece) :
    assemble? (.unit c.toNat :: ps) = (assemble? ps).map (c :: ·) := by
  have hleading : isLeading c.toNat = false := by
    simp only [isLeading, Bool.and_eq_false_iff, decide_eq_false_iff_not]
    omega
  have htrailing : isTrailing c.toNat = false := by
    simp only [isTrailing, Bool.and_eq_false_iff, decide_eq_false_iff_not]
    omega
  rw [assemble?.eq_def]
  simp only [hleading, htrailing, Bool.false_eq_true, if_false, Char.ofNat_toNat]

/-- A character between quotes is scanned as one item, which stands for it. -/
theorem pieces_escapeChar (c : Char) (cs : List Char) :
    ∃ p, pieces (escapeChar c ++ cs) = Piece.cons p (pieces cs) ∧
      ∀ ps, assemble? (p :: ps) = (assemble? ps).map (c :: ·) := by
  have hescape : ∀ e, escape? e = some c → e ≠ 'u' →
      ∃ p, pieces ('\\' :: e :: cs) = Piece.cons p (pieces cs) ∧
        ∀ ps, assemble? (p :: ps) = (assemble? ps).map (c :: ·) :=
    fun e he hu => ⟨.char c, pieces_escape he hu cs, assemble?_char c⟩
  fun_cases escapeChar c with
  | case1 hc => exact hescape '"' (by rw [hc]; decide) (by decide)
  | case2 _ hc => exact hescape '\\' (by rw [hc]; decide) (by decide)
  | case3 _ _ hc => exact hescape 'b' (by rw [hc]; decide) (by decide)
  | case4 _ _ _ hc => exact hescape 't' (by rw [hc]; decide) (by decide)
  | case5 _ _ _ _ hc => exact hescape 'n' (by rw [hc]; decide) (by decide)
  | case6 _ _ _ _ _ hc => exact hescape 'f' (by rw [hc]; decide) (by decide)
  | case7 _ _ _ _ _ _ hc => exact hescape 'r' (by rw [hc]; decide) (by decide)
  | case8 _ _ _ _ _ _ _ hcontrol =>
      have hlt : c.toNat < 32 := hcontrol
      exact ⟨.unit c.toNat, pieces_unit hlt cs, assemble?_unit hlt⟩
  | case9 hquote hslash _ _ _ _ _ hcontrol =>
      exact ⟨.char c, pieces_plain hquote hslash hcontrol cs, assemble?_char c⟩

/-- The items of an escaped text, up to the closing quote, stand for the text. -/
theorem pieces_flatMap_escapeChar (cs rest : List Char) :
    ∃ ps, pieces (cs.flatMap escapeChar ++ '"' :: rest) = (ps, .closed rest) ∧
      assemble? ps = some cs := by
  induction cs with
  | nil => exact ⟨[], by rw [List.flatMap_nil, List.nil_append, pieces], by rw [assemble?]⟩
  | cons c cs ih =>
      obtain ⟨ps, hps, hcs⟩ := ih
      obtain ⟨p, hp, hc⟩ := pieces_escapeChar c (cs.flatMap escapeChar ++ '"' :: rest)
      refine ⟨p :: ps, ?_, ?_⟩
      · rw [List.flatMap_cons, List.append_assoc, hp, hps, Piece.cons]
      · rw [hc, hcs]
        rfl

theorem scan_string (s : String) (cs : List Char) : scan (string s ++ cs) = .text s :: scan cs := by
  obtain ⟨ps, hps, hs⟩ := pieces_flatMap_escapeChar s.toList cs
  have hbody : string s ++ cs = '"' :: (s.toList.flatMap escapeChar ++ '"' :: cs) := by
    simp [string]
  rw [hbody]
  apply scan_of_next (by decide)
  have hpunctuation : punctuation? '"' = none := by decide
  simp only [next, hpunctuation, if_true, hps, ofPieces, hs, String.ofList_toList]

/-! ## Numbers -/

theorem scan_of_numeral {c : Char} {cs rest : List Char} {n : Numeral}
    (hc : (c = '-' || c.isDigit) = true) (hn : numeral (c :: cs) = .ok (n, rest)) :
    scan (c :: cs) = .number n :: scan rest := by
  have hne : ∀ d : Char, (d = '-' || d.isDigit) = false → c ≠ d := by
    intro d hd heq
    rw [heq, hd] at hc
    cases hc
  have hspace : isSpace c = false := by
    simp [isSpace, hne ' ', hne '\n', hne '\t', hne '\r']
  have hpunctuation : punctuation? c = none := by
    simp [punctuation?, hne '[', hne ']', hne '\x7b', hne '\x7d', hne ',', hne ':']
  have hliteral : literal? c = none := by
    simp [literal?, hne 'n', hne 't', hne 'f']
  apply scan_of_next hspace
  simp only [next, hpunctuation, if_neg (hne '"' (by decide)), hliteral, if_pos hc, hn]

theorem exists_intDigits_eq_cons (n : Int) :
    ∃ c cs, Text.intDigits n = c :: cs ∧ (c = '-' || c.isDigit) = true := by
  cases n with
  | ofNat n =>
      obtain ⟨c, cs, hcs⟩ := List.exists_cons_of_ne_nil (Text.natDigits_ne_nil n)
      have hdigit : c.isDigit = true := Text.isDigit_of_mem_natDigits (by rw [hcs]; simp)
      exact ⟨c, cs, hcs, by rw [hdigit, Bool.or_true]⟩
  | negSucc n => exact ⟨'-', _, rfl, by decide⟩

theorem scan_intDigits (n : Int) {cs : List Char} (hcs : EndsNumeral cs) :
    scan (Text.intDigits n ++ cs) = .number (.ofInt n) :: scan cs := by
  have hnumeral := numeral_intDigits n hcs
  obtain ⟨c, ds, hds, hc⟩ := exists_intDigits_eq_cons n
  rw [hds, List.cons_append] at hnumeral ⊢
  exact scan_of_numeral hc hnumeral

/-! ## Values -/

theorem endsNumeral_newline (level : Nat) (cs : List Char) : EndsNumeral (newline level ++ cs) :=
  endsNumeral_cons _ (by decide)

theorem endsNumeral_comma (cs : List Char) : EndsNumeral (',' :: cs) :=
  endsNumeral_cons _ (by decide)

/-- Wherever it is written, a value is scanned as its tokens. What stands behind must not go on with
a number that the value ends in. -/
def Scans (v : Json) : Prop :=
  ∀ level cs, EndsNumeral cs → scan (pretty level v ++ cs) = tokens v ++ scan cs

theorem scan_prettyItems (level : Nat) {v : Json} {items : List Json}
    (h : ∀ u ∈ v :: items, Scans u) {cs : List Char} (hcs : EndsNumeral cs) :
    scan (prettyItems level (v :: items) ++ cs) =
      tokens v ++ (furtherItems items ++ scan cs) := by
  induction items generalizing v with
  | nil =>
      rw [prettyItems, furtherItems]
      exact h v (by simp) level cs hcs
  | cons w items ih =>
      simp only [prettyItems, furtherItems, List.append_assoc, List.cons_append]
      rw [h v (by simp) level _ (endsNumeral_comma _), scan_comma, scan_newline,
        ih (fun u hu => h u (List.mem_cons_of_mem _ hu))]

theorem scan_prettyField (level : Nat) (k : String) {v : Json} (hv : Scans v)
    {cs : List Char} (hcs : EndsNumeral cs) :
    scan (string k ++ ':' :: ' ' :: (pretty level v ++ cs)) =
      .text k :: .colon :: (tokens v ++ scan cs) := by
  rw [scan_string, scan_colon, scan_of_isSpace (by decide), hv level cs hcs]

theorem scan_prettyFields (level : Nat) {k : String} {v : Json} {fields : List (String × Json)}
    (h : ∀ f ∈ (k, v) :: fields, Scans f.2) {cs : List Char} (hcs : EndsNumeral cs) :
    scan (prettyFields level ((k, v) :: fields) ++ cs) =
      .text k :: .colon :: (tokens v ++ (furtherFields fields ++ scan cs)) := by
  have hv : Scans v := h (k, v) (by simp)
  induction fields generalizing k v with
  | nil =>
      simp only [prettyFields, List.append_assoc, List.cons_append]
      exact scan_prettyField level k hv hcs
  | cons f fields ih =>
      obtain ⟨l, w⟩ := f
      have hfields : ∀ g ∈ (l, w) :: fields, Scans g.2 :=
        fun g hg => h g (List.mem_cons_of_mem _ hg)
      simp only [prettyFields, furtherFields, List.append_assoc, List.cons_append]
      rw [scan_prettyField level k hv (endsNumeral_comma _), scan_comma, scan_newline,
        ih hfields (hfields (l, w) (by simp))]

theorem scans_list {items : List Json} (h : ∀ v ∈ items, Scans v) : Scans (.list items) := by
  intro level cs _
  cases items with
  | nil =>
      simp only [pretty, tokens, List.cons_append, List.nil_append]
      rw [scan_listOpen, scan_listClose]
  | cons v items =>
      simp only [pretty, tokens, List.append_assoc, List.cons_append, List.nil_append]
      rw [scan_listOpen, scan_newline,
        scan_prettyItems (level + 1) h (endsNumeral_newline _ _), scan_newline, scan_listClose]

theorem scans_record {fields : List (String × Json)} (h : ∀ f ∈ fields, Scans f.2) :
    Scans (.record fields) := by
  intro level cs _
  cases fields with
  | nil =>
      simp only [pretty, tokens, List.cons_append, List.nil_append]
      rw [scan_recordOpen, scan_recordClose]
  | cons f fields =>
      obtain ⟨k, v⟩ := f
      simp only [pretty, tokens, List.append_assoc, List.cons_append, List.nil_append]
      rw [scan_recordOpen, scan_newline,
        scan_prettyFields (level + 1) h (endsNumeral_newline _ _), scan_newline, scan_recordClose]

/-- Scanning a value that was written gives its tokens. -/
theorem scans_of_fits {room : Nat} {v : Json} (h : Fits room v) : Scans v := by
  induction h with
  | null =>
      intro level cs _
      rw [pretty, tokens, scan_null]
      rfl
  | bool b =>
      intro level cs _
      rw [pretty, tokens, scan_boolean]
      rfl
  | @int _ n hmin hmax =>
      intro level cs hcs
      rw [pretty, tokens, Number.write, scan_intDigits n hcs, Number.token_int]
      rfl
  | text s =>
      intro level cs _
      rw [pretty, tokens, scan_string]
      rfl
  | list _ ih => exact scans_list ih
  | record _ ih => exact scans_record ih

theorem scan_toPrettyText {room : Nat} {v : Json} (h : Fits room v) :
    scan v.toPrettyText.toList = tokens v := by
  have hscan := scans_of_fits h 0 [] endsNumeral_nil
  rw [List.append_nil, scan_nil, List.append_nil] at hscan
  rw [toPrettyText, String.toList_ofList, hscan]

end Token

end RegisterMachine.Json
