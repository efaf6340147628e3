import RegisterMachine.Json.Basic

/-!
# Numerals

A numeral is a number as it is spelled: sign, digits, fraction and exponent. What it denotes is
decided afterwards. A plain integer that a word of 64 bits holds, signed or unsigned, is that
integer; `-0` and anything longer is a double. A double is found by the quick rule, one operation on
the digits that fit a word and one power of ten, which may be off in the last place and overflows to
no number at all.
-/

namespace RegisterMachine.Json

/-- A number as spelled. The whole part has digits; so has an exponent, behind its sign, `true` for
a negative one. No digits in the fraction mean that there is none. -/
structure Numeral where
  negative : Bool
  whole : List Char
  fraction : List Char
  exponent : Option (Bool × List Char)
  deriving DecidableEq, Repr

namespace Numeral

def digit (c : Char) : Nat := c.toNat - '0'.toNat

/-- The digits taken into one word: the word, and the power of ten that the digits left out of it
and the digits after the point come to. -/
structure Significand where
  word : Nat
  scale : Int
  full : Bool
  deriving DecidableEq, Repr

/-- One more digit before the point. Once the word is full, a digit only counts for the scale. -/
def Significand.pushWhole (s : Significand) (c : Char) : Significand :=
  let next := s.word * 10 + digit c
  if s.full || Text.maxWord < next then { s with scale := s.scale + 1, full := true }
  else { s with word := next }

/-- One more digit after the point. Once the word is full, a digit counts for nothing. -/
def Significand.pushFraction (s : Significand) (c : Char) : Significand :=
  let next := s.word * 10 + digit c
  if s.full || Text.maxWord < next then { s with full := true }
  else { s with word := next, scale := s.scale - 1 }

def wholeSignificand (n : Numeral) : Significand :=
  n.whole.foldl Significand.pushWhole ⟨0, 0, false⟩

/-- All digits. The fraction gets its own chance to fill the word. -/
def significand (n : Numeral) : Significand :=
  n.fraction.foldl Significand.pushFraction { n.wholeSignificand with full := false }

def power (n : Numeral) : Int :=
  match n.exponent with
  | none => 0
  | some (negative, digits) =>
    let e := Nat.ofDigitChars 10 digits 0
    if negative then -(e : Int) else e

/-- A float times a power of ten, unless it overflows. Beyond `10 ^ 308` a division goes in steps,
until nothing is left. -/
def scaleFloat (f : Float) (e : Int) : Option Float :=
  if e < -308 then
    if f == 0.0 then some f else scaleFloat (f / Float.ofScientific 1 false 308) (e + 308)
  else if e < 0 then some (f / Float.ofScientific 1 false e.natAbs)
  else if e ≤ 308 then
    let g := f * Float.ofScientific 1 false e.natAbs
    if g.isInf then none else some g
  else if f == 0.0 then some f else none
termination_by e.natAbs
decreasing_by omega

def double? (n : Numeral) : Option Double :=
  let s := n.significand
  (scaleFloat s.word.toUInt64.toFloat (s.scale + n.power)).map fun f =>
    Double.ofFloat (if n.negative then -f else f)

def isPlain (n : Numeral) : Bool :=
  n.fraction.isEmpty && n.exponent.isNone

def value? (n : Numeral) : Option Number :=
  let s := n.wholeSignificand
  if n.isPlain && !s.full then
    if !n.negative then some (.int s.word)
    else if s.word = 0 ∨ Text.minInt64.natAbs < s.word then
      some (.double (.ofFloat (-s.word.toUInt64.toFloat)))
    else some (.int (-(s.word : Int)))
  else n.double?.map Number.double

end Numeral

end RegisterMachine.Json
