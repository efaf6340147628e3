import RegisterMachine.Text.Decimal

/-!
# Values

What a register, a stack slot or a host argument holds. Numbers are signed words; a host handle and
a code address are words of their own kind, so that neither can be made out of a number.
-/

namespace RegisterMachine

inductive Value
  | number (n : Int64)
  | boolean (b : Bool)
  | text (s : String)
  | host (index : UInt64)
  | address (target : UInt64)
  deriving DecidableEq, Repr

inductive Kind
  | number
  | boolean
  | text
  | hostFunction
  | address
  deriving DecidableEq, Repr

def Kind.name : Kind → String
  | .number => "Number"
  | .boolean => "Boolean"
  | .text => "Text"
  | .hostFunction => "HostFunction"
  | .address => "Address"

namespace Value

/-- A fresh register holds the number zero. -/
instance : Inhabited Value := ⟨.number 0⟩

def kind : Value → Kind
  | .number _ => .number
  | .boolean _ => .boolean
  | .text _ => .text
  | .host _ => .hostFunction
  | .address _ => .address

def number? : Value → Option Int64
  | .number n => some n
  | _ => none

/-- Comparison for equality as programs see it: two numbers, two truth values or two texts compare,
and nothing else does. -/
def equals? : Value → Value → Option Bool
  | .number a, .number b => some (a == b)
  | .boolean a, .boolean b => some (a == b)
  | .text a, .text b => some (a == b)
  | _, _ => none

def display : Value → String
  | .number n => Text.ofInt n.toInt
  | .boolean b => if b then "true" else "false"
  | .text s => s
  | .host index => "<host #" ++ Text.ofNat index.toNat ++ ">"
  | .address target => "@" ++ Text.ofNat target.toNat

/-- Two values compare exactly if they are of one comparable kind. -/
theorem equals?_isSome_iff (a b : Value) :
    (a.equals? b).isSome ↔
      a.kind = b.kind ∧ (a.kind = .number ∨ a.kind = .boolean ∨ a.kind = .text) := by
  cases a <;> cases b <;> simp [equals?, kind]

/-- Values that compare equal are the same value. -/
theorem eq_of_equals? {a b : Value} (h : a.equals? b = some true) : a = b := by
  cases a <;> cases b <;> simp_all [equals?]

end Value

end RegisterMachine
