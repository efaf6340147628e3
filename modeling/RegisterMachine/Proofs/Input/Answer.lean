import RegisterMachine.Host.InputOutput
import RegisterMachine.Proofs.Json.Numeral
import Mathlib.Data.List.TakeWhile
import Mathlib.Data.List.Induction

/-!
# What a line of input means

A line answers with a number or with a text, and which of the two is decided by what is left
of it without the blanks around it. `Text.Trims` says what is left, and `Text.Signed` which
integer it spells, both without the functions that trim and read. A line that spells an
integer of 64 bits answers with this integer, and any other line with the text that is left.

An answer that is printed and given again stays the same, since the digits of a number spell
it and a text that is left has no blanks around it.
-/

namespace RegisterMachine

namespace Text

/-! ## Blanks -/

/-- What is left of a text without the blanks at its ends: there are only blanks around it, and it
neither starts nor ends with one. -/
structure Trims (cs t : List Char) : Prop where
  around : ∃ before after, cs = before ++ (t ++ after) ∧ (∀ c ∈ before, isBlank c) ∧
    ∀ c ∈ after, isBlank c
  head : ∀ c ∈ t.head?, isBlank c = false
  last : ∀ c ∈ t.getLast?, isBlank c = false

theorem head?_dropWhile_isBlank (cs : List Char) :
    ∀ c ∈ (cs.dropWhile isBlank).head?, isBlank c = false := by
  intro c hc
  have hnot := List.head?_dropWhile_not isBlank cs
  rw [Option.mem_def.mp hc] at hnot
  exact hnot

theorem trimEnd_append (cs : List Char) :
    trimEnd cs ++ (cs.reverse.takeWhile isBlank).reverse = cs := by
  rw [trimEnd, ← List.reverse_append, List.takeWhile_append_dropWhile, List.reverse_reverse]

theorem trims_trim (cs : List Char) : Trims cs (trim cs) where
  around := by
    refine ⟨cs.takeWhile isBlank, ((cs.dropWhile isBlank).reverse.takeWhile isBlank).reverse,
      ?_, fun c => List.mem_takeWhile_imp, ?_⟩
    · rw [trim, trimEnd_append, List.takeWhile_append_dropWhile]
    · intro c hc
      exact List.mem_takeWhile_imp (List.mem_reverse.mp hc)
  head := by
    intro c hc
    have hhead := head?_dropWhile_isBlank cs c
    rw [← trimEnd_append (cs.dropWhile isBlank), List.head?_append] at hhead
    apply hhead
    rw [← trim, Option.mem_def.mp hc]
    rfl
  last := by
    rw [trim, trimEnd, List.getLast?_reverse]
    exact head?_dropWhile_isBlank _

theorem dropWhile_of_head? {cs : List Char} (h : ∀ c ∈ cs.head?, isBlank c = false) :
    cs.dropWhile isBlank = cs := by
  cases cs with
  | nil => rfl
  | cons c cs => rw [List.dropWhile_cons_of_neg (by rw [h c rfl]; decide)]

theorem Trims.trim_eq {cs t : List Char} (h : Trims cs t) : trim cs = t := by
  obtain ⟨before, after, rfl, hbefore, hafter⟩ := h.around
  have hend : trimEnd (t ++ after) = t := by
    have hlast : ∀ c ∈ t.reverse.head?, isBlank c = false := by
      rw [List.head?_reverse]
      exact h.last
    rw [trimEnd, List.reverse_append,
      List.dropWhile_append_of_pos fun c hc => hafter c (List.mem_reverse.mp hc),
      dropWhile_of_head? hlast, List.reverse_reverse]
  rw [trim, List.dropWhile_append_of_pos hbefore]
  cases t with
  | nil =>
      have hnil : after.dropWhile isBlank = [] := List.dropWhile_eq_nil_iff.mpr hafter
      rw [List.nil_append, hnil]
      rfl
  | cons c t =>
      have hhead : ∀ d ∈ (c :: t ++ after).head?, isBlank d = false := h.head
      rw [dropWhile_of_head? hhead, hend]

/-- What is left of a text has nothing to trim. -/
theorem Trims.self {cs t : List Char} (h : Trims cs t) : Trims t t :=
  ⟨⟨[], [], by simp⟩, h.head, h.last⟩

/-! ## Integers -/

/-- Decimal digits, at least one, and the number that they denote. Zeros may stand in
front. -/
inductive Decimal : List Char → Nat → Prop
  | digit {d : Nat} (hd : d < 10) : Decimal [d.digitChar] d
  | snoc {cs : List Char} {n d : Nat} (h : Decimal cs n) (hd : d < 10) :
      Decimal (cs ++ [d.digitChar]) (10 * n + d)

/-- Decimal digits behind at most one sign, and the integer that they denote. -/
inductive Signed : List Char → Int → Prop
  | plain {cs : List Char} {n : Nat} (h : Decimal cs n) : Signed cs n
  | plus {cs : List Char} {n : Nat} (h : Decimal cs n) : Signed ('+' :: cs) n
  | minus {cs : List Char} {n : Nat} (h : Decimal cs n) : Signed ('-' :: cs) (-n)

theorem exists_digitChar_eq {c : Char} (h : c.isDigit) : ∃ d < 10, d.digitChar = c := by
  have hcode : 48 ≤ c.toNat ∧ c.toNat ≤ 57 := Char.isDigit_iff_toNat.mp h
  have hlt : c.toNat - 48 < 10 := by omega
  refine ⟨c.toNat - 48, hlt, ?_⟩
  rw [← Char.toNat_inj, Nat.toNat_digitChar_of_lt_ten hlt]
  omega

theorem ofDigitChars_concat (cs : List Char) {d : Nat} (hd : d < 10) :
    Nat.ofDigitChars 10 (cs ++ [d.digitChar]) 0 = 10 * Nat.ofDigitChars 10 cs 0 + d := by
  rw [Nat.ofDigitChars_append, Nat.ofDigitChars_cons_digitChar_of_lt_ten hd, Nat.ofDigitChars_nil]

theorem Decimal.isDigits {cs : List Char} {n : Nat} (h : Decimal cs n) :
    cs ≠ [] ∧ ∀ c ∈ cs, c.isDigit := by
  have hdigit : ∀ {d}, d < 10 → d.digitChar.isDigit := by decide
  induction h with
  | digit hd => exact ⟨by simp, by simpa using hdigit hd⟩
  | snoc _ hd ih =>
      refine ⟨by simp, ?_⟩
      intro c hc
      rcases List.mem_append.mp hc with hc | hc
      · exact ih.2 c hc
      · rw [List.mem_singleton.mp hc]
        exact hdigit hd

theorem Decimal.ofDigitChars {cs : List Char} {n : Nat} (h : Decimal cs n) :
    Nat.ofDigitChars 10 cs 0 = n := by
  induction h with
  | @digit d hd =>
      rw [Nat.ofDigitChars_cons_digitChar_of_lt_ten hd, Nat.ofDigitChars_nil, Nat.mul_zero,
        Nat.zero_add]
  | @snoc cs n d _ hd ih => rw [ofDigitChars_concat cs hd, ih]

theorem decimal_ofDigitChars {cs : List Char} (hne : cs ≠ []) (h : ∀ c ∈ cs, c.isDigit) :
    Decimal cs (Nat.ofDigitChars 10 cs 0) := by
  -- The number grows with every digit behind it, so the last digit is taken off first.
  induction cs using List.reverseRecOn with
  | nil => contradiction
  | append_singleton init c ih =>
      obtain ⟨d, hd, rfl⟩ := exists_digitChar_eq (h c (by simp))
      rw [ofDigitChars_concat init hd]
      cases init with
      | nil =>
          have hdigit := Decimal.digit hd
          simpa using hdigit
      | cons e init =>
          have hinit : ∀ c ∈ e :: init, c.isDigit := fun c hc => h c (List.mem_append_left _ hc)
          exact .snoc (ih (by simp) hinit) hd

theorem readNat?_eq_some_iff {cs : List Char} {n : Nat} : readNat? cs = some n ↔ Decimal cs n := by
  constructor
  · intro h
    rw [readNat?] at h
    split at h
    · next hdigits =>
        cases h
        exact decimal_ofDigitChars hdigits.1 (List.all_eq_true.mp hdigits.2)
    · cases h
  · intro h
    obtain ⟨hne, hdigits⟩ := h.isDigits
    rw [readNat?, if_pos ⟨hne, List.all_eq_true.mpr hdigits⟩, h.ofDigitChars]

theorem decimal_natDigits (n : Nat) : Decimal (natDigits n) n :=
  readNat?_eq_some_iff.mp (readNat?_natDigits n)

theorem not_decimal_cons {c : Char} (hc : c.isDigit = false) (cs : List Char) (n : Nat) :
    ¬Decimal (c :: cs) n := by
  intro h
  have hdigit := h.isDigits.2 c (by simp)
  rw [hc] at hdigit
  cases hdigit

theorem readInt?_eq_some_iff {cs : List Char} {n : Int} : readInt? cs = some n ↔ Signed cs n := by
  constructor
  · intro h
    unfold readInt? at h
    split at h
    · obtain ⟨m, hm, rfl⟩ := Option.map_eq_some_iff.mp h
      exact .plus (readNat?_eq_some_iff.mp hm)
    · next cs =>
        cases hcs : readNat? cs with
        | none =>
            rw [hcs] at h
            cases h
        | some m =>
            rw [hcs] at h
            cases h
            exact .minus (readNat?_eq_some_iff.mp hcs)
    · obtain ⟨m, hm, rfl⟩ := Option.map_eq_some_iff.mp h
      exact .plain (readNat?_eq_some_iff.mp hm)
  · intro h
    cases h with
    | plus h => rw [readInt?, readNat?_eq_some_iff.mpr h]; rfl
    | minus h => rw [readInt?, readNat?_eq_some_iff.mpr h]; rfl
    | plain h =>
        rw [readInt?, readNat?_eq_some_iff.mpr h]
        · rfl
        · rintro cs rfl
          exact not_decimal_cons (by decide) cs _ h
        · rintro cs rfl
          exact not_decimal_cons (by decide) cs _ h

theorem signed_intDigits (n : Int) : Signed (intDigits n) n := by
  cases n with
  | ofNat n => exact .plain (decimal_natDigits n)
  | negSucc n => exact .minus (decimal_natDigits (n + 1))

theorem readInt64?_eq_some_iff {cs : List Char} {w : Int64} :
    readInt64? cs = some w ↔ Signed cs w.toInt := by
  rw [readInt64?, Option.bind_eq_some_iff]
  constructor
  · rintro ⟨n, hn, hw⟩
    rw [toInt64?_eq_some_iff.mp hw]
    exact readInt?_eq_some_iff.mp hn
  · intro h
    exact ⟨w.toInt, readInt?_eq_some_iff.mpr h, toInt64?_toInt w⟩

theorem readInt64?_eq_none_iff {cs : List Char} :
    readInt64? cs = none ↔ ¬∃ n, Signed cs n ∧ -2 ^ 63 ≤ n ∧ n < 2 ^ 63 := by
  simp only [readInt64?, Option.bind_eq_none_iff, toInt64?_eq_none_iff, readInt?_eq_some_iff,
    not_exists, not_and]

theorem isBlank_of_isDigit {c : Char} (h : c.isDigit) : isBlank c = false := by
  obtain ⟨d, hd, rfl⟩ := exists_digitChar_eq h
  have hdigits : ∀ d < 10, isBlank d.digitChar = false := by decide
  exact hdigits d hd

theorem Signed.isBlank_eq_false {cs : List Char} {n : Int} (h : Signed cs n) :
    ∀ c ∈ cs, isBlank c = false := by
  have hdigits : ∀ {ds m}, Decimal ds m → ∀ c ∈ ds, isBlank c = false :=
    fun hds c hc => isBlank_of_isDigit (hds.isDigits.2 c hc)
  cases h with
  | plain h => exact hdigits h
  | plus h => exact List.forall_mem_cons.mpr ⟨by decide, hdigits h⟩
  | minus h => exact List.forall_mem_cons.mpr ⟨by decide, hdigits h⟩

/-- With blanks around an integer, the integer is what is left. -/
theorem Signed.trims {cs : List Char} {n : Int} (h : Signed cs n) {before after : List Char}
    (hbefore : ∀ c ∈ before, isBlank c) (hafter : ∀ c ∈ after, isBlank c) :
    Trims (before ++ (cs ++ after)) cs where
  around := ⟨before, after, rfl, hbefore, hafter⟩
  head c hc := h.isBlank_eq_false c (List.mem_of_mem_head? hc)
  last c hc := h.isBlank_eq_false c (List.mem_of_getLast? hc)

end Text

/-! ## Answers -/

open Text (Trims Signed)

theorem parseInput_of_trims {s : String} {t : List Char} (h : Trims s.toList t) :
    parseInput s = match Text.readInt64? t with
      | some n => .number n
      | none => .text (String.ofList t) := by
  have hvalue := congrArg (fun t => match Text.readInt64? t with
    | some n => Value.number n
    | none => .text (String.ofList t)) h.trim_eq
  exact hvalue

theorem parseInput_eq_number_iff {s : String} {t : List Char} (h : Trims s.toList t) (n : Int64) :
    parseInput s = .number n ↔ Signed t n.toInt := by
  rw [parseInput_of_trims h, ← Text.readInt64?_eq_some_iff]
  cases Text.readInt64? t with
  | none => simp
  | some m => simp

theorem parseInput_eq_text_iff {s : String} {t : List Char} (h : Trims s.toList t) :
    parseInput s = .text (String.ofList t) ↔
      ¬∃ n, Signed t n ∧ -2 ^ 63 ≤ n ∧ n < 2 ^ 63 := by
  rw [parseInput_of_trims h, ← Text.readInt64?_eq_none_iff]
  cases Text.readInt64? t with
  | none => simp
  | some m => simp

/-- The digits of a number with blanks around them answer with the number. -/
theorem parseInput_display_number (n : Int64) {before after : String}
    (hbefore : ∀ c ∈ before.toList, Text.isBlank c) (hafter : ∀ c ∈ after.toList, Text.isBlank c) :
    parseInput (before ++ ((Value.number n).display ++ after)) = .number n := by
  have hdigits : Signed (Text.intDigits n.toInt) n.toInt := Text.signed_intDigits n.toInt
  have htext : (before ++ ((Value.number n).display ++ after)).toList =
      before.toList ++ (Text.intDigits n.toInt ++ after.toList) := by
    rw [String.toList_append, String.toList_append, Value.display, Text.ofInt,
      String.toList_ofList]
  refine (parseInput_eq_number_iff ?_ n).mpr hdigits
  rw [htext]
  exact hdigits.trims hbefore hafter

theorem parseInput_cases {s : String} {t : List Char} (h : Trims s.toList t) :
    (∃ n, parseInput s = .number n) ∨ parseInput s = .text (String.ofList t) := by
  rw [parseInput_of_trims h]
  cases Text.readInt64? t with
  | none => exact .inr rfl
  | some n => exact .inl ⟨n, rfl⟩

/-- An answer that is printed answers with itself. -/
theorem parseInput_display (s : String) : parseInput (parseInput s).display = parseInput s := by
  have htrims := Text.trims_trim s.toList
  rcases parseInput_cases htrims with ⟨n, hn⟩ | ht
  · have hdisplay := @parseInput_display_number n "" "" nofun nofun
    rw [hn]
    rwa [String.empty_append, String.append_empty] at hdisplay
  · -- A text has been trimmed already, so it spells as little an integer as the line did.
    have hself : Trims (String.ofList (Text.trim s.toList)).toList (Text.trim s.toList) := by
      rw [String.toList_ofList]
      exact htrims.self
    rw [ht]
    exact (parseInput_eq_text_iff hself).mpr ((parseInput_eq_text_iff htrims).mp ht)

/-- A line answers with a number exactly if what is left of it without the blanks around it
spells this number, one of 64 bits, and otherwise with the text that is left. The digits of
every number answer with the number, whatever blanks are around them, and an answer that is
printed and given again stays the same. -/
theorem parseInput_classifies (s : String) :
    (∃ t, Trims s.toList t ∧
      (∀ n : Int64, parseInput s = .number n ↔ Signed t n.toInt) ∧
      (parseInput s = .text (String.ofList t) ↔
        ¬∃ n, Signed t n ∧ -2 ^ 63 ≤ n ∧ n < 2 ^ 63)) ∧
    (∀ (n : Int64) (before after : String), (∀ c ∈ before.toList, Text.isBlank c) →
      (∀ c ∈ after.toList, Text.isBlank c) →
      parseInput (before ++ ((Value.number n).display ++ after)) = .number n) ∧
    parseInput (parseInput s).display = parseInput s := by
  have htrims := Text.trims_trim s.toList
  exact ⟨⟨_, htrims, parseInput_eq_number_iff htrims, parseInput_eq_text_iff htrims⟩,
    fun n before after => parseInput_display_number n, parseInput_display s⟩

end RegisterMachine
