import RegisterMachine.Instruction

/-!
# Sample programs

Four small programs that between them use every family of operations. All but the first ask for a
number with the host function at place 0 and print with the one at place 1.
-/

namespace RegisterMachine.Program

open Instruction

def arithmetic : Program := .ofList [
  store (.int 5) 0,
  store (.int 10) 1,
  add 0 1 0,
  print 0]

/-- Asks for a number and says whether it is negative. -/
def sign : Program := .ofList [
  loadGlobal 0 0,
  loadGlobal 1 1,
  store (.text "Enter a number: ") 2,
  callMethod 0 [2] (some 3),
  store (.int 0) 4,
  store (.text "Not a negative number") 5,
  store (.text "Is a negative number") 6,
  lessThan 3 4 8,
  jumpIfTrue 8 11,
  callMethod 1 [5] none,
  exit,
  callMethod 1 [6] none,
  exit]

/-- Asks for an index and prints the Fibonacci numbers up to it, in a loop. The last two are in
registers 3 and 4, the index of the next in 5, and the wanted index in 7. -/
def fibonacciLoop : Program := .ofList [
  loadGlobal 0 0,
  loadGlobal 1 1,
  store (.text "Enter a number: ") 6,
  callMethod 0 [6] (some 7),
  store (.int 1) 2,
  store (.int 0) 3,
  store (.int 1) 4,
  store (.int 2) 5,
  callMethod 1 [3] none,
  callMethod 1 [4] none,
  add 3 4 8,
  set 4 3,
  set 8 4,
  callMethod 1 [8] none,
  add 5 2 5,
  lessThanEquals 5 7 9,
  jumpIfTrue 9 10,
  exit]

def fibonacciEntry : UInt64 := 22

/-- Prints what `fibonacciLoop` prints, but adds in a subroutine, which takes its arguments from the
data stack and leaves their sum there. -/
def fibonacciCall : Program := .ofList [
  loadGlobal 0 0,
  loadGlobal 1 1,
  store (.text "Enter a number: ") 6,
  callMethod 0 [6] (some 7),
  store (.int 1) 2,
  store (.int 0) 3,
  store (.int 1) 4,
  store (.int 2) 5,
  store (.address fibonacciEntry) 9,
  callMethod 1 [3] none,
  callMethod 1 [4] none,
  push 3,
  push 4,
  callFunc 9 2,
  pop 8,
  set 4 3,
  set 8 4,
  callMethod 1 [8] none,
  add 5 2 5,
  lessThanEquals 5 7 11,
  jumpIfTrue 11 11,
  exit,
  pop 11,
  pop 10,
  add 10 11 10,
  push 10,
  ret]

def samples : List (String × Program) :=
  [("arithmetic", arithmetic), ("sign", sign), ("fib-loop", fibonacciLoop),
    ("fib-call", fibonacciCall)]

def sampleNames : List String := samples.map Prod.fst

def sample? (name : String) : Option Program := samples.lookup name

end RegisterMachine.Program
