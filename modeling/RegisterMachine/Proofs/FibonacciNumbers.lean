import Mathlib.Data.Nat.Fib.Basic
import RegisterMachine.Proofs.Fibonacci
import RegisterMachine.Proofs.Json.Numeral

/-!
# What the Fibonacci loop prints

With an answer that is a number, the rounds of the loop go through the Fibonacci numbers:
`Vars.at n k` are the variables when the next number to come is the one of index `k + 2`. A round
is the last if the next index exceeds the answer, and the sum of the numbers of index 91 and 92 is
no number of 64 bits any more, so an answer beyond 92 makes the loop fail just there. The first
round is run whatever the answer, hence the numbers up to index 2 are printed in any case.
-/

namespace RegisterMachine

namespace Core

theorem sum_eq_ok {a b c : Int64} (h : a.toInt + b.toInt = c.toInt) : sum a b = .ok c := by
  rw [sum, h, Text.toInt64?_toInt]

theorem sum_eq_error {a b : Int64} (h : Text.maxInt64 < a.toInt + b.toInt) :
    sum a b = .error .arithmeticOverflow := by
  rw [sum, Text.toInt64?, if_neg fun hfits => Int.not_lt.mpr hfits.2 h]

end Core

namespace Fibonacci

open Instruction Machine Standard

/-! ## Fibonacci numbers in a register -/

def number (k : Nat) : Int64 := .ofNat (Nat.fib k)

/-- The last index whose Fibonacci number a signed word of 64 bits holds: the next number is beyond
`2 ^ 63`. -/
def lastIndex : Nat := 92

theorem toInt_number {k : Nat} (h : k ≤ lastIndex) : (number k).toInt = Nat.fib k := by
  have hlast : Nat.fib lastIndex < 2 ^ 63 := by decide +kernel
  exact Int64.toInt_ofNat_of_lt (Nat.lt_of_le_of_lt (Nat.fib_mono h) hlast)

theorem sum_number {k : Nat} (h : k + 2 ≤ lastIndex) :
    Core.sum (number k) (number (k + 1)) = .ok (number (k + 2)) := by
  apply Core.sum_eq_ok
  rw [toInt_number (by omega), toInt_number (by omega), toInt_number h, Nat.fib_add_two,
    Int.natCast_add]

theorem sum_number_lastIndex :
    Core.sum (number 91) (number lastIndex) = .error .arithmeticOverflow := by
  apply Core.sum_eq_error
  rw [toInt_number (by decide), toInt_number (Nat.le_refl _)]
  decide +kernel

/-! ## The rounds on an answer that is a number -/

def Vars.at (n : Int64) (k : Nat) : Vars := ⟨number k, number (k + 1), .ofNat (k + 2), .number n⟩

theorem toInt_index {k : Nat} (h : k ≤ lastIndex + 1) : (Int64.ofNat k).toInt = k :=
  Int64.toInt_ofNat_of_lt (Nat.lt_of_le_of_lt h (by decide))

theorem count_next {n : Int64} {k : Nat} (h : k + 2 ≤ lastIndex) :
    ((Vars.at n k).next (number (k + 2))).count =
      .ok (Vars.at n (k + 1), decide ((k + 3 : Int) ≤ n.toInt)) := by
  have hindex : (Int64.ofNat (k + 2)).toInt = (k + 2 : Nat) := toInt_index (by omega)
  have hnext : (Int64.ofNat (k + 3)).toInt = (k + 3 : Nat) := toInt_index (by omega)
  have hsum : Core.sum (.ofNat (k + 2)) 1 = .ok (.ofNat (k + 3)) := by
    apply Core.sum_eq_ok
    have hone : (1 : Int64).toInt = 1 := rfl
    omega
  have hle : decide (Int64.ofNat (k + 3) ≤ n) = decide ((k + 3 : Int) ≤ n.toInt) := by
    rw [decide_eq_decide, Int64.le_iff_toInt_le, hnext]
    omega
  rw [← hle]
  show (do
    let k ← Core.sum (.ofNat (k + 2)) 1
    Except.ok (_, decide (k ≤ n))) = _
  rw [hsum]
  rfl

section Rounds

variable {n : Int64} {k : Nat}

theorem rounds_last (h : k + 2 ≤ lastIndex) (hn : n.toInt < k + 3) :
    Rounds (.at n k) [number (k + 2)] (.ok .exit) := by
  have hcount := count_next (n := n) h
  rw [decide_eq_false (by omega)] at hcount
  exact .last (sum_number h) hcount

theorem rounds_overflow : Rounds (.at n 91) [] (.error .arithmeticOverflow) :=
  .overflow sum_number_lastIndex

/-- As long as the answer is not reached, every round prints one number. -/
theorem rounds_of_le {cs : List Int64} {result : Except Error Halt} {j : Nat}
    (hrest : Rounds (.at n (k + j)) cs result) (h : k + j + 1 ≤ lastIndex)
    (hn : j = 0 ∨ (k + j + 2 : Int) ≤ n.toInt) :
    Rounds (.at n k) ((List.range' (k + 2) j).map number ++ cs) result := by
  induction j generalizing k with
  | zero => exact hrest
  | succ j ih =>
      have hk : k + (j + 1) = k + 1 + j := by omega
      rw [hk] at hrest h
      have hle : k + 2 ≤ lastIndex := by omega
      have hcount := count_next (n := n) hle
      rw [decide_eq_true (by omega)] at hcount
      exact .more (sum_number hle) hcount (ih hrest h (by omega))

end Rounds

/-- How far the loop gets: to the answer, but at least to index 2 and at most to the last number
that a register can hold. -/
def reach (n : Int64) : Nat := min (max n.toInt 2).toNat lastIndex

def ending (n : Int64) : Except Error Halt :=
  if n.toInt ≤ lastIndex then .ok .exit else .error .arithmeticOverflow

theorem rounds_start (n : Int64) :
    Rounds (.start (.number n)) ((List.range' 2 (reach n - 1)).map number) (ending n) := by
  have hlast : lastIndex = 92 := rfl
  have hstart : Vars.start (.number n) = .at n 0 := rfl
  rw [hstart, ending, reach]
  by_cases hn : n.toInt ≤ lastIndex
  · -- The last round prints the number of index `j + 2`.
    obtain ⟨j, hj⟩ : ∃ j : Nat, (max n.toInt 2).toNat = j + 2 :=
      ⟨(max n.toInt 2).toNat - 2, by omega⟩
    have hlastRound : Rounds (.at n (0 + j)) [number (j + 2)] (.ok .exit) := by
      rw [Nat.zero_add]
      exact rounds_last (by omega) (by omega)
    have hall := rounds_of_le hlastRound (by omega) (by omega)
    rw [if_pos hn, hj, Nat.min_eq_left (by omega)]
    show Rounds _ ((List.range' 2 (j + 1)).map number) _
    rw [List.range'_concat, List.map_append, Nat.one_mul, Nat.add_comm 2 j]
    exact hall
  · have hall := rounds_of_le (k := 0) (j := 91) (n := n) rounds_overflow (by omega) (by omega)
    rw [List.append_nil] at hall
    rw [if_neg hn, Nat.min_eq_right (by omega)]
    exact hall

/-! ## The lines -/

def linesUpTo (m : Nat) : List String :=
  (List.range (m + 1)).map fun k => Text.ofNat (Nat.fib k)

theorem toList_printed (lines : Array String) (cs : List Int64) :
    (printed lines cs).toList = lines.toList ++ cs.map fun c => printedLine [.number c] := by
  induction cs generalizing lines with
  | nil => simp [printed]
  | cons c cs ih =>
      show (printed (lines.push _) cs).toList = _
      rw [ih, Array.toList_push, List.append_assoc]
      rfl

theorem printedLine_number {k : Nat} (h : k ≤ lastIndex) :
    printedLine [.number (number k)] = Text.ofNat (Nat.fib k) := by
  show Text.ofInt (number k).toInt = _
  rw [toInt_number h]
  rfl

theorem toList_printed_numbers {m : Nat} (hm : 1 ≤ m) (h : m ≤ lastIndex) :
    (printed #[] (0 :: 1 :: (List.range' 2 (m - 1)).map number)).toList = linesUpTo m := by
  have hnumbers : 0 :: 1 :: (List.range' 2 (m - 1)).map number =
      (List.range (m + 1)).map number := by
    obtain ⟨j, rfl⟩ : ∃ j, m = j + 1 := ⟨m - 1, by omega⟩
    rw [List.range_eq_range', List.range'_succ, List.range'_succ]
    rfl
  rw [hnumbers, toList_printed, List.nil_append, List.map_map, linesUpTo]
  apply List.map_congr_left
  intro k hk
  exact printedLine_number (by rw [List.mem_range] at hk; omega)

/-- The loop comes to its end with the numbers up to its reach printed. -/
theorem ends_numbers (n : Int64) : ∃ r t,
    (bootScripted {} Program.fibonacciLoop [.number n]).Returns scripted r t ∧
    r.map Report.halt = ending n ∧ t.world.sink.lines.toList = linesUpTo (reach n) := by
  have hlast : lastIndex = 92 := rfl
  rcases ends_loop (rounds_start n) [] with ⟨r, t, hreturns, hr, hworld, -⟩
  refine ⟨r, t, hreturns, hr, ?_⟩
  rw [hworld]
  refine toList_printed_numbers ?_ (Nat.min_le_right _ _)
  rw [reach]
  omega

/-- With a number `n` of 64 bits as the only answer, the loop prints the Fibonacci numbers of the
indices from 0 up to `n`, but at least up to 2, and exits, as long as `n` is at most 92. Beyond
that it prints the numbers up to index 92 and fails, since the next one is no number of 64 bits. -/
theorem loop_prints_fibonacci_numbers (n : Int64) :
    (n.toInt ≤ 92 → ∃ report t,
      (bootScripted {} Program.fibonacciLoop [.number n]).Returns scripted (.ok report) t ∧
      report.halt = .exit ∧
      t.world.sink.lines.toList = linesUpTo (max n.toInt 2).toNat) ∧
    (93 ≤ n.toInt → ∃ t,
      (bootScripted {} Program.fibonacciLoop [.number n]).Returns scripted
        (.error .arithmeticOverflow) t ∧
      t.world.sink.lines.toList = linesUpTo 92) := by
  have hlast : lastIndex = 92 := rfl
  rcases ends_numbers n with ⟨r, t, hreturns, hr, hlines⟩
  rw [reach] at hlines
  constructor
  · intro hn
    rw [ending, if_pos (by omega)] at hr
    rw [Nat.min_eq_left (by omega)] at hlines
    cases r with
    | error e => cases hr
    | ok report => exact ⟨report, t, hreturns, Except.ok.inj hr, hlines⟩
  · intro hn
    rw [ending, if_neg (by omega)] at hr
    rw [Nat.min_eq_right (by omega)] at hlines
    cases r with
    | ok report => cases hr
    | error e =>
        cases hr
        exact ⟨t, hreturns, hlines⟩

end Fibonacci

end RegisterMachine
