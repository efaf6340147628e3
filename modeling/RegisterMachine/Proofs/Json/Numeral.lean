import Mathlib.Algebra.Group.Int.Defs
import Mathlib.Algebra.Group.Nat.Defs
import RegisterMachine.Json.Token
import RegisterMachine.Json.Printer

/-!
# Integers as numerals

An integer is written as a numeral without fraction and exponent, `Numeral.ofInt`. At
the front of a text in which no numeral goes on (`Token.EndsNumeral`) the scanner cuts
exactly that numeral off, and it denotes the integer as long as a word of 64 bits, signed
or unsigned, holds it. Beyond these it denotes no integer at all.
-/

namespace RegisterMachine

/-! ## Decimal digits -/

namespace Text

theorem natDigits_of_lt {n : Nat} (h : n < 10) : natDigits n = [n.digitChar] :=
  Nat.toDigits_of_lt_base h

theorem natDigits_of_le {n : Nat} (h : 10 ≤ n) :
    natDigits n = natDigits (n / 10) ++ [(n % 10).digitChar] :=
  Nat.toDigits_of_base_le (by decide) h

theorem natDigits_ne_nil (n : Nat) : natDigits n ≠ [] :=
  Nat.toDigits_ne_nil

theorem isDigit_of_mem_natDigits {n : Nat} {c : Char} (h : c ∈ natDigits n) : c.isDigit :=
  Nat.isDigit_of_mem_toDigits (by decide) (by decide) h

theorem eq_zero_of_natDigits_eq_cons {n : Nat} {cs : List Char} (h : natDigits n = '0' :: cs) :
    n = 0 := by
  induction n using Nat.strongRecOn generalizing cs with
  | ind n ih =>
      by_cases hlt : n < 10
      · rw [natDigits_of_lt hlt] at h
        have hhead : n.digitChar = '0' := (List.cons.inj h).1
        have hdigits : ∀ k < 10, k.digitChar = '0' → k = 0 := by decide
        exact hdigits n hlt hhead
      · have hle : 10 ≤ n := by omega
        rw [natDigits_of_le hle] at h
        obtain ⟨d, ds, hds⟩ := List.exists_cons_of_ne_nil (natDigits_ne_nil (n / 10))
        rw [hds, List.cons_append] at h
        have hzero := ih (n / 10) (by omega) (by rw [hds, (List.cons.inj h).1])
        omega

theorem natDigits_zero : natDigits 0 = ['0'] := natDigits_of_lt (by decide)

/-! ## Words -/

theorem word_le (w : UInt64) : w.toNat ≤ maxWord := Nat.le_of_lt_succ w.toNat_lt

theorem minInt64_le (n : Int64) : minInt64 ≤ n.toInt := n.le_toInt

theorem le_maxInt64 (n : Int64) : n.toInt ≤ maxInt64 := Int.le_of_lt_add_one n.toInt_lt

@[simp] theorem toWord?_toNat (w : UInt64) : toWord? w.toNat = some w := by
  rw [toWord?, if_pos ⟨Int.natCast_nonneg _, Int.ofNat_le.mpr (word_le w)⟩, Int.toNat_natCast,
    UInt64.ofNat_toNat]

@[simp] theorem toInt64?_toInt (n : Int64) : toInt64? n.toInt = some n := by
  rw [toInt64?, if_pos ⟨minInt64_le n, le_maxInt64 n⟩, Int64.ofInt_toInt]

/-- A signed word holds an integer exactly, or not at all. -/
theorem toInt64?_eq_some_iff {n : Int} {w : Int64} : toInt64? n = some w ↔ w.toInt = n := by
  constructor
  · intro h
    rw [toInt64?] at h
    split at h
    · next hrange =>
        cases h
        exact Int64.toInt_ofInt_of_le hrange.1 (Int.lt_add_one_of_le hrange.2)
    · cases h
  · rintro rfl
    exact toInt64?_toInt w

/-- An unsigned word holds an integer exactly, or not at all. -/
theorem toWord?_eq_some_iff {n : Int} {w : UInt64} : toWord? n = some w ↔ (w.toNat : Int) = n := by
  constructor
  · intro h
    rw [toWord?] at h
    split at h
    · next hrange =>
        cases h
        have hlt : n.toNat < 2 ^ 64 := Nat.lt_succ_of_le (Int.toNat_le.mpr hrange.2)
        rw [UInt64.toNat_ofNat_of_lt' hlt, Int.toNat_of_nonneg hrange.1]
    · cases h
  · rintro rfl
    exact toWord?_toNat w

theorem toInt64?_eq_none_iff {n : Int} : toInt64? n = none ↔ ¬(-2 ^ 63 ≤ n ∧ n < 2 ^ 63) := by
  rw [toInt64?, minInt64, maxInt64]
  split
  · next hrange =>
      simp only [reduceCtorEq, false_iff]
      omega
  · next hrange =>
      simp only [true_iff]
      omega

theorem toWord?_eq_none_iff {n : Int} : toWord? n = none ↔ ¬(0 ≤ n ∧ n < 2 ^ 64) := by
  rw [toWord?, maxWord]
  split
  · next hrange =>
      simp only [reduceCtorEq, false_iff]
      omega
  · next hrange =>
      simp only [true_iff]
      omega

/-- No word of 64 bits holds what is beyond the signed and the unsigned ones together. -/
theorem toInt64?_of_beyond {n : Int} (h : ¬(minInt64 ≤ n ∧ n ≤ maxWord)) : toInt64? n = none := by
  rw [toInt64?_eq_none_iff]
  simp only [minInt64, maxWord] at h
  omega

theorem toWord?_of_beyond {n : Int} (h : ¬(minInt64 ≤ n ∧ n ≤ maxWord)) : toWord? n = none := by
  rw [toWord?_eq_none_iff]
  simp only [minInt64, maxWord] at h
  omega

end Text

namespace Json

/-! ## Cutting a numeral off -/

namespace Token

/-- A text at whose front no numeral goes on, so that a numeral written in front of it ends where it
was meant to. -/
def EndsNumeral (rest : List Char) : Prop :=
  ∀ c ∈ rest.head?, c.isDigit = false ∧ c ≠ '.' ∧ isExponentMark c = false

theorem endsNumeral_nil : EndsNumeral [] := by
  intro c hc
  cases hc

theorem endsNumeral_cons {c : Char} (rest : List Char)
    (h : c.isDigit = false ∧ c ≠ '.' ∧ isExponentMark c = false) : EndsNumeral (c :: rest) := by
  intro d hd
  cases hd
  exact h

def EndsDigits (rest : List Char) : Prop :=
  ∀ c ∈ rest.head?, c.isDigit = false

theorem EndsNumeral.endsDigits {rest : List Char} (h : EndsNumeral rest) : EndsDigits rest :=
  fun c hc => (h c hc).1

theorem digits_append {ds rest : List Char} (hne : ds ≠ []) (hds : ∀ c ∈ ds, c.isDigit)
    (hrest : EndsDigits rest) : digits (ds ++ rest) = .ok (ds, rest) := by
  have htake : rest.takeWhile Char.isDigit = [] := by
    cases rest with
    | nil => rfl
    | cons c rest => simp [hrest c rfl]
  have hdrop : rest.dropWhile Char.isDigit = rest := by
    cases rest with
    | nil => rfl
    | cons c rest => simp [hrest c rfl]
  unfold digits
  rw [List.takeWhile_append_of_pos hds, List.dropWhile_append_of_pos hds, htake, hdrop,
    List.append_nil]
  split
  · contradiction
  · rfl

structure IsWhole (ds : List Char) : Prop where
  ne_nil : ds ≠ []
  digits : ∀ c ∈ ds, c.isDigit
  zero : ∀ cs, ds = '0' :: cs → cs = []

theorem wholePart_append {ds rest : List Char} (h : IsWhole ds) (hrest : EndsDigits rest) :
    wholePart (ds ++ rest) = .ok (ds, rest) := by
  have hdigits : digits (ds ++ rest) = .ok (ds, rest) := digits_append h.ne_nil h.digits hrest
  unfold wholePart
  split
  · next c tail htext =>
      -- A zero in front is the whole number, and what follows it is no digit.
      obtain ⟨d, cs, rfl⟩ := List.exists_cons_of_ne_nil h.ne_nil
      rw [List.cons_append] at htext
      obtain ⟨rfl, htail⟩ := List.cons.inj htext
      cases h.zero cs rfl
      have hrest_eq : rest = c :: tail := htail
      subst hrest_eq
      rw [if_neg (by rw [hrest c rfl]; decide)]
  · exact hdigits

theorem isWhole_natDigits (n : Nat) : IsWhole (Text.natDigits n) where
  ne_nil := Text.natDigits_ne_nil n
  digits _ := Text.isDigit_of_mem_natDigits
  zero cs h := by
    cases Text.eq_zero_of_natDigits_eq_cons h
    rw [Text.natDigits_zero] at h
    exact (List.cons.inj h).2.symm

/-- The digits of a number are the whole part of a numeral. -/
theorem wholePart_natDigits (n : Nat) {rest : List Char} (hrest : EndsNumeral rest) :
    wholePart (Text.natDigits n ++ rest) = .ok (Text.natDigits n, rest) :=
  wholePart_append (isWhole_natDigits n) hrest.endsDigits

theorem fractionPart_of_endsNumeral {rest : List Char} (hrest : EndsNumeral rest) :
    fractionPart rest = .ok ([], rest) := by
  unfold fractionPart
  split
  · next tail => exact absurd rfl (hrest '.' rfl).2.1
  · rfl

theorem exponentPart_of_endsNumeral {rest : List Char} (hrest : EndsNumeral rest) :
    exponentPart rest = .ok (none, rest) := by
  cases rest with
  | nil => rfl
  | cons c rest =>
      rw [exponentPart, if_neg (by rw [(hrest c rfl).2.2]; decide)]

theorem unsignedNumeral_natDigits (negative : Bool) (n : Nat) {rest : List Char}
    (hrest : EndsNumeral rest) :
    unsignedNumeral negative (Text.natDigits n ++ rest) =
      .ok (⟨negative, Text.natDigits n, [], none⟩, rest) := by
  simp only [unsignedNumeral, wholePart_natDigits n hrest, fractionPart_of_endsNumeral hrest,
    exponentPart_of_endsNumeral hrest, bind, Except.bind]

end Token

def Numeral.ofInt : Int → Numeral
  | .ofNat n => ⟨false, Text.natDigits n, [], none⟩
  | .negSucc n => ⟨true, Text.natDigits (n + 1), [], none⟩

theorem Numeral.ofInt_inj {n m : Int} (h : ofInt n = ofInt m) : n = m := by
  have hdigits : ∀ {k l : Nat}, Text.natDigits k = Text.natDigits l → k = l := by
    intro k l hkl
    have hread := Text.readNat?_natDigits k
    rw [hkl, Text.readNat?_natDigits] at hread
    exact (Option.some.inj hread).symm
  cases n with
  | ofNat n =>
      cases m with
      | ofNat m => exact congrArg _ (hdigits (congrArg Numeral.whole h))
      | negSucc m => cases congrArg Numeral.negative h
  | negSucc n =>
      cases m with
      | ofNat m => cases congrArg Numeral.negative h
      | negSucc m => exact congrArg _ (Nat.succ.inj (hdigits (congrArg Numeral.whole h)))

theorem Token.numeral_intDigits (n : Int) {rest : List Char} (hrest : EndsNumeral rest) :
    numeral (Text.intDigits n ++ rest) = .ok (Numeral.ofInt n, rest) := by
  cases n with
  | ofNat n =>
      have hunsigned := unsignedNumeral_natDigits false n hrest
      show numeral (Text.natDigits n ++ rest) = _
      unfold numeral
      split
      · next cs htext =>
          -- No digit is a sign.
          obtain ⟨d, ds, hds⟩ := List.exists_cons_of_ne_nil (Text.natDigits_ne_nil n)
          have hdigit : d.isDigit := Text.isDigit_of_mem_natDigits (by rw [hds]; simp)
          rw [hds, List.cons_append] at htext
          rw [(List.cons.inj htext).1] at hdigit
          exact absurd hdigit (by decide)
      · exact hunsigned
  | negSucc n => exact unsignedNumeral_natDigits true (n + 1) hrest

/-! ## What a numeral denotes -/

namespace Numeral

/-- A word of 64 bits takes in all digits of a number that it holds. -/
theorem foldl_pushWhole_natDigits {n : Nat} (h : n ≤ Text.maxWord) :
    (Text.natDigits n).foldl Significand.pushWhole ⟨0, 0, false⟩ = ⟨n, 0, false⟩ := by
  have hdigit : ∀ k < 10, digit k.digitChar = k := by decide
  induction n using Nat.strongRecOn with
  | ind n ih =>
      by_cases hlt : n < 10
      · rw [Text.natDigits_of_lt hlt]
        simp [Significand.pushWhole, hdigit n hlt, Nat.not_lt.mpr h]
      · have hle : 10 ≤ n := by omega
        have hnext : n / 10 * 10 + n % 10 = n := by omega
        rw [Text.natDigits_of_le hle, List.foldl_append, ih (n / 10) (by omega) (by omega)]
        simp [Significand.pushWhole, hdigit (n % 10) (by omega), hnext, Nat.not_lt.mpr h]

/-- An integer that a word of 64 bits holds, signed or unsigned, is what its numeral
denotes. -/
theorem value?_ofInt {n : Int} (hmin : Text.minInt64 ≤ n) (hmax : n ≤ Text.maxWord) :
    (ofInt n).value? = some (.int n) := by
  cases n with
  | ofNat n =>
      have hle : n ≤ Text.maxWord := Int.ofNat_le.mp hmax
      simp [value?, ofInt, isPlain, wholeSignificand, foldl_pushWhole_natDigits hle]
  | negSucc n =>
      have hle : n + 1 ≤ Text.minInt64.natAbs := by
        simp only [Text.minInt64] at hmin ⊢
        omega
      have hword : n + 1 ≤ Text.maxWord := Nat.le_trans hle (by decide)
      have hneg : -((n + 1 : Nat) : Int) = Int.negSucc n := rfl
      simp only [value?, ofInt, isPlain, wholeSignificand, foldl_pushWhole_natDigits hword]
      rw [if_pos (by decide), if_neg (by decide), if_neg (by omega), hneg]

theorem full_foldl_pushWhole_natDigits {n : Nat} (h : Text.maxWord < n) :
    ((Text.natDigits n).foldl Significand.pushWhole ⟨0, 0, false⟩).full = true := by
  have hdigit : ∀ k < 10, digit k.digitChar = k := by decide
  induction n using Nat.strongRecOn with
  | ind n ih =>
      have hle : 10 ≤ n := Nat.le_trans (by decide) (Nat.le_of_lt h)
      have hnext : n / 10 * 10 + n % 10 = n := by omega
      rw [Text.natDigits_of_le hle, List.foldl_append]
      by_cases hword : n / 10 ≤ Text.maxWord
      · rw [foldl_pushWhole_natDigits hword]
        simp [Significand.pushWhole, hdigit (n % 10) (by omega), hnext, h]
      · have hfull := ih (n / 10) (by omega) (Nat.lt_of_not_le hword)
        simp [Significand.pushWhole, hfull]

/-- An integer beyond words of 64 bits, signed or unsigned, is no integer to the reader. -/
theorem value?_ofInt_ne {n : Int} (h : ¬(Text.minInt64 ≤ n ∧ n ≤ Text.maxWord)) (m : Int) :
    (ofInt n).value? ≠ some (.int m) := by
  have hdouble : ∀ k : Numeral, k.double?.map Number.double ≠ some (.int m) := by
    intro k hk
    obtain ⟨d, -, hd⟩ := Option.map_eq_some_iff.mp hk
    cases hd
  cases n with
  | ofNat n =>
      have hlt : Text.maxWord < n := by
        simp only [Text.minInt64, Text.maxWord, Int.ofNat_eq_natCast] at h ⊢
        omega
      simp only [value?, ofInt, isPlain, wholeSignificand, full_foldl_pushWhole_natDigits hlt]
      exact hdouble _
  | negSucc n =>
      have hlt : Text.minInt64.natAbs < n + 1 := by
        simp only [Text.minInt64, Text.maxWord] at h ⊢
        omega
      by_cases hword : n + 1 ≤ Text.maxWord
      · simp only [value?, ofInt, isPlain, wholeSignificand, foldl_pushWhole_natDigits hword]
        rw [if_pos (by decide), if_neg (by decide), if_pos (.inr hlt)]
        exact nofun
      · have hfull := full_foldl_pushWhole_natDigits (Nat.lt_of_not_le hword)
        simp only [value?, ofInt, isPlain, wholeSignificand, hfull]
        exact hdouble _

/-- Whatever wants an integer of a number and refuses those beyond words of 64 bits makes the
same of a numeral as of the integer itself. -/
theorem bind_value?_ofInt {α : Type} {f : Number → Option α} {n : Int}
    (hdouble : ∀ d, f (.double d) = none)
    (hbeyond : ¬(Text.minInt64 ≤ n ∧ n ≤ Text.maxWord) → f (.int n) = none) :
    (ofInt n).value?.bind f = f (.int n) := by
  by_cases hn : Text.minInt64 ≤ n ∧ n ≤ Text.maxWord
  · rw [value?_ofInt hn.1 hn.2, Option.bind_some]
  · rw [hbeyond hn]
    cases hvalue : (ofInt n).value? with
    | none => rfl
    | some x =>
        cases x with
        | int m => exact absurd hvalue (value?_ofInt_ne hn m)
        | double d => exact hdouble d

end Numeral

end Json

end RegisterMachine
