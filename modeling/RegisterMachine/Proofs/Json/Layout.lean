import RegisterMachine.Proofs.Json.Scan

/-!
# The layouts of a sequence of tokens

A sequence of tokens can be laid out in many ways: with any blanks around them, and with
many ways to spell a string or a number. `Token.Spells` says how a single token is
spelled, and `Token.Layout` puts such spellings one behind the other. Whatever the
layout, scanning it gives the tokens back (`Token.scan_layout`).

What a string denotes is said here without the scanner: `Token.Items` are the items
between its quotes, and `Token.Stands` the characters they stand for. A string with half of a
pair of units in it stands for none, and it is a token all the same.
-/

namespace RegisterMachine.Json.Token

/-! ## Strings -/

/-- The items between quotes: a character as it is, one behind a backslash, or a unit of
sixteen bits by its hexadecimal digits. -/
inductive Items : List Piece → List Char → Prop
  | nil : Items [] []
  | plain {c : Char} {ps : List Piece} {cs : List Char} (hquote : c ≠ '"') (hslash : c ≠ '\\')
      (hcontrol : ¬c < ' ') (h : Items ps cs) : Items (.char c :: ps) (c :: cs)
  | letter {e c : Char} {ps : List Piece} {cs : List Char} (he : escape? e = some c)
      (h : Items ps cs) : Items (.char c :: ps) ('\\' :: e :: cs)
  | unit {a b c d : Char} {n : Nat} {ps : List Piece} {cs : List Char}
      (hn : hexUnit? a b c d = some n) (h : Items ps cs) :
      Items (.unit n :: ps) ('\\' :: 'u' :: a :: b :: c :: d :: cs)

/-- The characters that items stand for. A unit is a character by its code, unless that is
beyond sixteen bits: then two units make a pair. -/
inductive Stands : List Piece → List Char → Prop
  | nil : Stands [] []
  | char {c : Char} {ps : List Piece} {cs : List Char} (h : Stands ps cs) :
      Stands (.char c :: ps) (c :: cs)
  | unit {c : Char} {ps : List Piece} {cs : List Char} (h : Stands ps cs) :
      Stands (.unit c.toNat :: ps) (c :: cs)
  | pair {lead trail : Nat} {c : Char} {ps : List Piece} {cs : List Char}
      (hlead : 0xD800 ≤ lead ∧ lead ≤ 0xDBFF) (htrail : 0xDC00 ≤ trail ∧ trail ≤ 0xDFFF)
      (hc : c.toNat = 0x10000 + (lead - 0xD800) * 0x400 + (trail - 0xDC00))
      (h : Stands ps cs) : Stands (.unit lead :: .unit trail :: ps) (c :: cs)

theorem items_plain {cs : List Char} (h : ∀ c ∈ cs, c ≠ '"' ∧ c ≠ '\\' ∧ ¬c < ' ') :
    Items (cs.map .char) cs := by
  induction cs with
  | nil => exact .nil
  | cons c cs ih =>
      obtain ⟨⟨hquote, hslash, hcontrol⟩, hcs⟩ := List.forall_mem_cons.mp h
      exact .plain hquote hslash hcontrol (ih hcs)

theorem stands_plain (cs : List Char) : Stands (cs.map .char) cs := by
  induction cs with
  | nil => exact .nil
  | cons c cs ih => exact .char ih

theorem isLeading_iff (n : Nat) : isLeading n = true ↔ 0xD800 ≤ n ∧ n ≤ 0xDBFF := by
  simp [isLeading]

theorem isTrailing_iff (n : Nat) : isTrailing n = true ↔ 0xDC00 ≤ n ∧ n ≤ 0xDFFF := by
  simp [isTrailing]

theorem not_surrogate (c : Char) : isLeading c.toNat = false ∧ isTrailing c.toNat = false := by
  rw [← Bool.not_eq_true, ← Bool.not_eq_true, isLeading_iff, isTrailing_iff]
  have hvalid : c.toNat < 0xD800 ∨ 0xDFFF < c.toNat ∧ c.toNat < 0x110000 := c.valid
  omega

theorem Stands.assemble? {ps : List Piece} {cs : List Char} (h : Stands ps cs) :
    Token.assemble? ps = some cs := by
  induction h with
  | nil => rw [Token.assemble?]
  | char _ ih => rw [assemble?_char, ih, Option.map_some]
  | @unit c ps cs _ ih =>
      obtain ⟨hleading, htrailing⟩ := not_surrogate c
      rw [assemble?.eq_def]
      simp only [hleading, htrailing, Bool.false_eq_true, if_false, Char.ofNat_toNat, ih,
        Option.map_some]
  | @pair lead trail c ps cs hlead htrail hc _ ih =>
      have hpair : pairChar lead trail = c := by
        have hcode : (lead - 0xD800) * 1024 + (trail - 0xDC00) + 0x10000 = c.toNat := by omega
        rw [pairChar, hcode, Char.ofNat_toNat]
      rw [assemble?.eq_def]
      simp only [(isLeading_iff lead).mpr hlead, (isTrailing_iff trail).mpr htrail, if_true, ih,
        Option.map_some, hpair]

theorem exists_toNat_eq {n : Nat} (h : n.isValidChar) : ∃ c : Char, c.toNat = n :=
  ⟨.ofNatAux n h, rfl⟩

/-- Units of sixteen bits stand for characters wherever these can be assembled. -/
theorem stands_of_assemble? {ps : List Piece} {cs : List Char}
    (hps : ∀ n, .unit n ∈ ps → n < 0x10000) (h : assemble? ps = some cs) : Stands ps cs := by
  fun_induction assemble? ps generalizing cs with
  | case1 =>
      cases h
      exact .nil
  | case2 c ps ih =>
      obtain ⟨cs, hcs, rfl⟩ := Option.map_eq_some_iff.mp h
      exact .char (ih (fun n hn => hps n (List.mem_cons_of_mem _ hn)) hcs)
  | case3 lead hlead trail ps htrail ih =>
      obtain ⟨cs, hcs, rfl⟩ := Option.map_eq_some_iff.mp h
      rw [isLeading_iff] at hlead
      rw [isTrailing_iff] at htrail
      have hstands : Stands ps cs :=
        ih (fun n hn => hps n (List.mem_cons_of_mem _ (List.mem_cons_of_mem _ hn))) hcs
      obtain ⟨c, hc⟩ := exists_toNat_eq (n := (lead - 0xD800) * 1024 + (trail - 0xDC00) + 0x10000)
        (.inr ⟨by omega, by omega⟩)
      rw [pairChar, ← hc, Char.ofNat_toNat]
      exact .pair hlead htrail (by omega) hstands
  | case4 => cases h
  | case5 => cases h
  | case6 => cases h
  | case7 n ps hleading htrailing ih =>
      obtain ⟨cs, hcs, rfl⟩ := Option.map_eq_some_iff.mp h
      rw [isLeading_iff] at hleading
      rw [isTrailing_iff] at htrailing
      have hlt := hps n (by simp)
      have hstands : Stands ps cs := ih (fun n hn => hps n (List.mem_cons_of_mem _ hn)) hcs
      have hvalid : n.isValidChar := by
        rw [Nat.isValidChar]
        omega
      obtain ⟨c, rfl⟩ := exists_toNat_eq hvalid
      rw [Char.ofNat_toNat]
      exact .unit hstands

theorem hexDigit?_lt {c : Char} {n : Nat} (h : hexDigit? c = some n) : n < 16 := by
  have hle : ∀ d : Char, c ≤ d → c.toNat ≤ d.toNat := fun _ hd => hd
  unfold hexDigit? at h
  split at h
  · next hc =>
      cases h
      have hbound : c.toNat ≤ 57 := hle '9' hc.2
      omega
  · split at h
    · next hc =>
        cases h
        have hbound : c.toNat ≤ 102 := hle 'f' hc.2
        omega
    · split at h
      · next hc =>
          cases h
          have hbound : c.toNat ≤ 70 := hle 'F' hc.2
          omega
      · cases h

theorem hexUnit?_lt {a b c d : Char} {n : Nat} (h : hexUnit? a b c d = some n) :
    n < 0x10000 := by
  simp only [hexUnit?, Option.bind_eq_bind, Option.bind_eq_some_iff] at h
  obtain ⟨a, ha, b, hb, c, hc, d, hd, hn⟩ := h
  cases hn
  have ha := hexDigit?_lt ha
  have hb := hexDigit?_lt hb
  have hc := hexDigit?_lt hc
  have hd := hexDigit?_lt hd
  omega

theorem Items.unit_lt {ps : List Piece} {cs : List Char} (h : Items ps cs) :
    ∀ n, .unit n ∈ ps → n < 0x10000 := by
  induction h with
  | nil => simp
  | plain _ _ _ _ ih | letter _ _ ih => simpa using ih
  | unit hn _ ih => simpa using ⟨hexUnit?_lt hn, ih⟩

/-- The items are cut off up to the closing quote. -/
theorem Items.pieces {ps : List Piece} {cs : List Char} (h : Items ps cs) (rest : List Char) :
    Token.pieces (cs ++ '"' :: rest) = (ps, .closed rest) := by
  induction h with
  | nil => rw [List.nil_append, Token.pieces]
  | plain hquote hslash hcontrol _ ih =>
      rw [List.cons_append, pieces_plain hquote hslash hcontrol, ih]
      rfl
  | @letter e c ps cs he _ ih =>
      have hu : e ≠ 'u' := by
        rintro rfl
        cases he
      rw [List.cons_append, List.cons_append, pieces_escape he hu, ih]
      rfl
  | unit hn _ ih =>
      simp only [List.cons_append]
      rw [Token.pieces, hn, ih]
      rfl

theorem scan_items {ps : List Piece} {cs : List Char} (h : Items ps cs) (rest : List Char) :
    scan ('"' :: (cs ++ '"' :: rest)) = ofPieces ps :: scan rest := by
  apply scan_of_next (by decide)
  have hpunctuation : punctuation? '"' = none := by decide
  simp only [next, hpunctuation, if_true, h.pieces]

/-! ## Numbers -/

inductive Fraction : List Char → List Char → Prop
  | none : Fraction [] []
  | some {ds : List Char} (hne : ds ≠ []) (hds : ∀ c ∈ ds, c.isDigit) : Fraction ds ('.' :: ds)

inductive ExponentSign : Bool → List Char → Prop
  | none : ExponentSign false []
  | plus : ExponentSign false ['+']
  | minus : ExponentSign true ['-']

inductive Exponent : Option (Bool × List Char) → List Char → Prop
  | none : Exponent none []
  | some {mark : Char} {negative : Bool} {sign ds : List Char} (hmark : mark = 'e' ∨ mark = 'E')
      (hsign : ExponentSign negative sign) (hne : ds ≠ []) (hds : ∀ c ∈ ds, c.isDigit) :
      Exponent (some (negative, ds)) (mark :: (sign ++ ds))

def sign (negative : Bool) : List Char := if negative then ['-'] else []

/-- The ways to write a numeral: its whole part is written in one way only. -/
inductive Written : Numeral → List Char → Prop
  | mk {negative : Bool} {whole fraction f e : List Char} {exponent : Option (Bool × List Char)}
      (hwhole : IsWhole whole) (hf : Fraction fraction f) (he : Exponent exponent e) :
      Written ⟨negative, whole, fraction, exponent⟩ (sign negative ++ (whole ++ (f ++ e)))

theorem Written.int (n : Int) : Written (.ofInt n) (Text.intDigits n) := by
  cases n with
  | ofNat n =>
      have hwritten := @Written.mk false _ _ _ _ _ (isWhole_natDigits n) .none .none
      rwa [List.append_nil, List.append_nil] at hwritten
  | negSucc n =>
      have hwritten := @Written.mk true _ _ _ _ _ (isWhole_natDigits (n + 1)) .none .none
      rwa [List.append_nil, List.append_nil] at hwritten

theorem digit_ne {c d : Char} (hc : c.isDigit) (hd : d.isDigit = false) : c ≠ d := by
  rintro rfl
  rw [hc] at hd
  cases hd

/-- An exponent goes on neither with a digit nor with a point. -/
theorem Exponent.head? {exponent : Option (Bool × List Char)} {e rest : List Char}
    (he : Exponent exponent e) (hrest : EndsNumeral rest) :
    ∀ c ∈ (e ++ rest).head?, c.isDigit = false ∧ c ≠ '.' := by
  cases he with
  | none => exact fun c hc => ⟨(hrest c hc).1, (hrest c hc).2.1⟩
  | some hmark _ _ _ =>
      rintro c ⟨⟩
      rcases hmark with rfl | rfl
      · decide
      · decide

theorem Fraction.fractionPart {fraction f rest : List Char} (hf : Fraction fraction f)
    (hrest : ∀ c ∈ rest.head?, c.isDigit = false ∧ c ≠ '.') :
    Token.fractionPart (f ++ rest) = .ok (fraction, rest) := by
  cases hf with
  | none =>
      rw [List.nil_append]
      unfold Token.fractionPart
      split
      · next tail => exact absurd rfl (hrest '.' rfl).2
      · rfl
  | some hne hds => exact digits_append hne hds fun c hc => (hrest c hc).1

theorem Fraction.endsDigits {fraction f rest : List Char} (hf : Fraction fraction f)
    (hrest : ∀ c ∈ rest.head?, c.isDigit = false ∧ c ≠ '.') : EndsDigits (f ++ rest) := by
  cases hf with
  | none => exact fun c hc => (hrest c hc).1
  | some _ _ =>
      rintro c ⟨⟩
      decide

theorem ExponentSign.exponentSign {negative : Bool} {sign ds : List Char}
    (hsign : ExponentSign negative sign) (hne : ds ≠ []) (hds : ∀ c ∈ ds, c.isDigit)
    (rest : List Char) : Token.exponentSign (sign ++ (ds ++ rest)) = (negative, ds ++ rest) := by
  cases hsign with
  | none =>
      -- No digit is a sign.
      obtain ⟨d, ds, rfl⟩ := List.exists_cons_of_ne_nil hne
      have hd : d.isDigit := hds d (by simp)
      rw [List.nil_append, List.cons_append, Token.exponentSign]
      · exact fun _ h => digit_ne hd (by decide) (List.cons.inj h).1
      · exact fun _ h => digit_ne hd (by decide) (List.cons.inj h).1
  | plus => rfl
  | minus => rfl

theorem Exponent.exponentPart {exponent : Option (Bool × List Char)} {e rest : List Char}
    (he : Exponent exponent e) (hrest : EndsNumeral rest) :
    Token.exponentPart (e ++ rest) = .ok (exponent, rest) := by
  cases he with
  | none => exact exponentPart_of_endsNumeral hrest
  | @some mark negative sign ds hmark hsign hne hds =>
      have hdigits := digits_append hne hds hrest.endsDigits
      have hmark : isExponentMark mark = true := by
        rcases hmark with rfl | rfl
        · decide
        · decide
      rw [List.cons_append, List.append_assoc, Token.exponentPart, if_pos hmark,
        hsign.exponentSign hne hds]
      simp only [hdigits, bind, Except.bind]

theorem Written.numeral {n : Numeral} {cs rest : List Char} (h : Written n cs)
    (hrest : EndsNumeral rest) : Token.numeral (cs ++ rest) = .ok (n, rest) := by
  obtain @⟨negative, whole, fraction, f, e, exponent, hwhole, hf, he⟩ := h
  have hunsigned : unsignedNumeral negative (whole ++ (f ++ (e ++ rest))) =
      .ok (⟨negative, whole, fraction, exponent⟩, rest) := by
    simp only [unsignedNumeral, wholePart_append hwhole (hf.endsDigits (he.head? hrest)),
      hf.fractionPart (he.head? hrest), he.exponentPart hrest, bind, Except.bind]
  simp only [List.append_assoc]
  cases negative with
  | true => exact hunsigned
  | false =>
      obtain ⟨d, ds, rfl⟩ := List.exists_cons_of_ne_nil hwhole.ne_nil
      have hd : d.isDigit := hwhole.digits d (by simp)
      show Token.numeral (d :: (ds ++ (f ++ (e ++ rest)))) = _
      rw [Token.numeral]
      · exact hunsigned
      · exact fun _ h => digit_ne hd (by decide) (List.cons.inj h).1

theorem Written.exists_cons {n : Numeral} {cs : List Char} (h : Written n cs) :
    ∃ c ds, cs = c :: ds ∧ (c = '-' || c.isDigit) = true := by
  obtain @⟨negative, whole, fraction, f, e, exponent, hwhole, hf, he⟩ := h
  cases negative with
  | true => exact ⟨'-', _, rfl, by decide⟩
  | false =>
      obtain ⟨d, ds, rfl⟩ := List.exists_cons_of_ne_nil hwhole.ne_nil
      have hd : d.isDigit := hwhole.digits d (by simp)
      exact ⟨d, _, rfl, by rw [hd, Bool.or_true]⟩

/-! ## Tokens -/

/-- The ways to spell a token. A text has several, by the escapes in it; a string that stands for no
text is a token of its own. -/
inductive Spells : Token → List Char → Prop
  | listOpen : Spells .listOpen ['[']
  | listClose : Spells .listClose [']']
  | recordOpen : Spells .recordOpen ['\x7b']
  | recordClose : Spells .recordClose ['\x7d']
  | comma : Spells .comma [',']
  | colon : Spells .colon [':']
  | null : Spells .null ['n', 'u', 'l', 'l']
  | bool (b : Bool) : Spells (.bool b) (boolean b)
  | number {n : Numeral} {cs : List Char} (h : Written n cs) : Spells (.number n) cs
  | text {s : String} {ps : List Piece} {cs : List Char} (hitems : Items ps cs)
      (h : Stands ps s.toList) : Spells (.text s) ('"' :: (cs ++ ['"']))
  | looseText {ps : List Piece} {cs : List Char} (hitems : Items ps cs)
      (h : ∀ chars, ¬Stands ps chars) : Spells .looseText ('"' :: (cs ++ ['"']))

theorem Spells.plain (s : String) (h : ∀ c ∈ s.toList, c ≠ '"' ∧ c ≠ '\\' ∧ ¬c < ' ') :
    Spells (.text s) ('"' :: (s.toList ++ ['"'])) :=
  .text (items_plain h) (stands_plain _)

theorem Spells.scan {t : Token} {cs rest : List Char} (h : Spells t cs)
    (hends : ∀ n, t = .number n → EndsNumeral rest) :
    Token.scan (cs ++ rest) = t :: Token.scan rest := by
  cases h with
  | listOpen => exact scan_listOpen rest
  | listClose => exact scan_listClose rest
  | recordOpen => exact scan_recordOpen rest
  | recordClose => exact scan_recordClose rest
  | comma => exact scan_comma rest
  | colon => exact scan_colon rest
  | null => exact scan_null rest
  | bool b => exact scan_boolean b rest
  | number h =>
      have hnumeral := h.numeral (hends _ rfl)
      obtain ⟨c, ds, rfl, hc⟩ := h.exists_cons
      exact scan_of_numeral hc hnumeral
  | @text s ps cs hitems h =>
      have hscan := scan_items hitems rest
      rw [ofPieces, h.assemble?] at hscan
      simp only [String.ofList_toList] at hscan
      simpa using hscan
  | @looseText ps cs hitems h =>
      have hnone : assemble? ps = none := by
        cases hps : assemble? ps with
        | none => rfl
        | some chars => exact absurd (stands_of_assemble? hitems.unit_lt hps) (h chars)
      have hscan := scan_items hitems rest
      rw [ofPieces, hnone] at hscan
      simpa using hscan

/-- The texts in which tokens stand one behind the other, with any blanks around them. A
number has to end where it does: no other token may go on with it. -/
inductive Layout : List Token → List Char → Prop
  | nil {blanks : List Char} (hblanks : ∀ c ∈ blanks, isSpace c) : Layout [] blanks
  | cons {t : Token} {ts : List Token} {blanks cs rest : List Char}
      (hblanks : ∀ c ∈ blanks, isSpace c) (ht : Spells t cs)
      (hends : ∀ n, t = .number n → EndsNumeral rest) (h : Layout ts rest) :
      Layout (t :: ts) (blanks ++ (cs ++ rest))

theorem Layout.tight {t : Token} {ts : List Token} {cs rest : List Char} (ht : Spells t cs)
    (hends : ∀ n, t = .number n → EndsNumeral rest) (h : Layout ts rest) :
    Layout (t :: ts) (cs ++ rest) :=
  .cons (fun _ hc => absurd hc List.not_mem_nil) ht hends h

theorem Layout.blank {ts : List Token} {c : Char} {cs : List Char} (hc : isSpace c)
    (h : Layout ts cs) : Layout ts (c :: cs) := by
  cases h with
  | nil hblanks => exact .nil (List.forall_mem_cons.mpr ⟨hc, hblanks⟩)
  | @cons t ts blanks cs rest hblanks ht hends h =>
      rw [← List.cons_append]
      exact .cons (List.forall_mem_cons.mpr ⟨hc, hblanks⟩) ht hends h

/-- Whatever the layout, scanning gives the tokens back. -/
theorem scan_layout {ts : List Token} {cs : List Char} (h : Layout ts cs) : scan cs = ts := by
  induction h with
  | @nil blanks hblanks =>
      have hscan := scan_spaces hblanks []
      rwa [List.append_nil, scan_nil] at hscan
  | cons hblanks ht hends _ ih => rw [scan_spaces hblanks, ht.scan hends, ih]

end RegisterMachine.Json.Token
