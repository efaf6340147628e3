/-!
# Integers in decimal

Writing is canonical: no sign on a number that is not negative, no leading zero. Reading is more
generous, as user input and options are: one sign may stand in front (`-` only where negative
numbers make sense) and leading zeros are harmless. What is read is exact, and a number outside the
64 bits that have to hold it is refused rather than cut.
-/

namespace RegisterMachine.Text

def natDigits (n : Nat) : List Char :=
  Nat.toDigits 10 n

def intDigits : Int → List Char
  | .ofNat n => natDigits n
  | .negSucc n => '-' :: natDigits (n + 1)

def ofNat (n : Nat) : String := String.ofList (natDigits n)

def ofInt (n : Int) : String := String.ofList (intDigits n)

def readNat? (cs : List Char) : Option Nat :=
  if cs ≠ [] ∧ cs.all Char.isDigit then some (Nat.ofDigitChars 10 cs 0) else none

/-- Digits after at most one sign, as the integer they denote. Zeros may stand in front, and neither
blanks nor marks between the digits. -/
def readInt? : List Char → Option Int
  | '+' :: cs => (readNat? cs).map Int.ofNat
  | '-' :: cs => (readNat? cs).map fun n => -(n : Int)
  | cs => (readNat? cs).map Int.ofNat

def minInt64 : Int := -9223372036854775808

def maxInt64 : Int := 9223372036854775807

def maxWord : Nat := 18446744073709551615

def toInt64? (n : Int) : Option Int64 :=
  if minInt64 ≤ n ∧ n ≤ maxInt64 then some (Int64.ofInt n) else none

def toWord? (n : Int) : Option UInt64 :=
  if 0 ≤ n ∧ n ≤ maxWord then some (UInt64.ofNat n.toNat) else none

def readInt64? (cs : List Char) : Option Int64 :=
  (readInt? cs).bind toInt64?

/-- An unsigned word from its decimal text; a `+` may stand in front, a `-` may not. -/
def readWord? : List Char → Option UInt64
  | '+' :: cs => (readNat? cs).bind fun n => toWord? n
  | cs => (readNat? cs).bind fun n => toWord? n

@[simp] theorem readNat?_natDigits (n : Nat) : readNat? (natDigits n) = some n := by
  have hne : natDigits n ≠ [] := by
    intro h
    have := Nat.ofDigitChars_toDigits (b := 10) (n := n) (by decide) (by decide)
    unfold natDigits at h
    rw [h] at this
    have hn : n = 0 := by simpa [Nat.ofDigitChars] using this.symm
    subst hn
    exact absurd h (by decide)
  have hall : (natDigits n).all Char.isDigit = true := by
    rw [List.all_eq_true]
    intro c hc
    exact Nat.isDigit_of_mem_toDigits (by decide) (by decide) hc
  unfold readNat?
  rw [if_pos ⟨hne, hall⟩]
  exact congrArg some (Nat.ofDigitChars_toDigits (by decide) (by decide))

end RegisterMachine.Text
