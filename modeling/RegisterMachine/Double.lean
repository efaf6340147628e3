import RegisterMachine.Text.Decimal

/-!
# Doubles and their shortest text

A double is kept by its bits, so that two of them can be told apart and compared without the rules
of floating-point equality. Its text is the shortest decimal that reads back as the same double; of
two shortest candidates the nearer one is taken. Where the point goes is a decision of the format,
`Double.text`: positional between `0.00001` and `9999999999999999.0`, scientific outside.
-/

namespace RegisterMachine

/-- A double of 64 bits, by its bits. Only its text is wanted of it, for which its sign, its
exponent and its fraction are enough. -/
structure Double where
  bits : UInt64
  deriving DecidableEq, Repr

namespace Double

def ofFloat (f : Float) : Double := ⟨f.toBits⟩

def isNegative (d : Double) : Bool := d.bits >>> 63 == 1

def biased (d : Double) : Nat := (d.bits >>> 52 &&& 0x7FF).toNat

def fraction (d : Double) : Nat := (d.bits &&& 0xFFFFFFFFFFFFF).toNat

/-- The magnitude of a finite double as a whole number of quarters of the last binary place, with
the exponent of that unit: `4 * m` and `q - 2` for the magnitude `m * 2 ^ q`. Quarters make the ends
of the rounding interval whole. -/
def quarters (d : Double) : Nat × Int :=
  if d.biased = 0 then (4 * d.fraction, -1076)
  else (4 * (d.fraction + 0x10000000000000), (d.biased : Int) - 1077)

/-- How far below the magnitude the rounding interval reaches, in quarters: half a place, but only
a quarter where the double below is in the next binade. -/
def reachBelow (d : Double) : Nat :=
  if d.fraction = 0 ∧ 1 < d.biased then 1 else 2

/-- Numerator and denominator of `n * 2 ^ q * 10 ^ (-k)`. -/
def scaled (n : Nat) (q k : Int) : Nat × Nat :=
  (n * Nat.pow 2 q.toNat * Nat.pow 10 (-k).toNat, Nat.pow 2 (-q).toNat * Nat.pow 10 k.toNat)

/-- Whether the decimal `c * 10 ^ k` rounds to the double: it lies in the interval around it, whose
ends belong to it if the last bit is even. -/
def admits (d : Double) (c : Nat) (k : Int) : Bool :=
  let (m, q) := d.quarters
  let (_, den) := scaled m q k
  let (low, _) := scaled (m - d.reachBelow) q k
  let (high, _) := scaled (m + 2) q k
  let here := c * den
  if d.fraction % 2 = 0 then low ≤ here && here ≤ high else low < here && here < high

/-- The decimal exponent `e` with `10 ^ e ≤ magnitude < 10 ^ (e + 1)`, sought downwards from an
upper bound. -/
def magnitudeFrom (d : Double) : Nat → Int → Int
  | 0, e => e
  | fuel + 1, e =>
    let (m, q) := d.quarters
    let (num, den) := scaled m q e
    if den ≤ num then e else d.magnitudeFrom fuel (e - 1)

/-- The decimal exponent of the first digit: no double reaches `10 ^ 309`, and none but zero is
below `10 ^ (-324)`. -/
def magnitude (d : Double) : Int := d.magnitudeFrom 640 309

/-- The nearer of the double's two neighbours among the multiples of `10 ^ k`, of those that read
back as the double. A tie goes to the even one. -/
def nearestMultiple? (d : Double) (k : Int) : Option Nat :=
  let (m, q) := d.quarters
  let (num, den) := scaled m q k
  let below := num / den
  let rest := num % den
  let belowFirst := 2 * rest < den || (2 * rest == den && below % 2 == 0)
  let candidates := if belowFirst then [below, below + 1] else [below + 1, below]
  candidates.find? fun c => 0 < c && d.admits c k

/-- The digits of the shortest decimal, sought from `n` digits on, with the exponent of its unit. -/
def shortestFrom (d : Double) : Nat → Nat → Nat × Int
  | 0, _ => (0, 0)
  | fuel + 1, n =>
    let k := d.magnitude - n + 1
    match d.nearestMultiple? k with
    | some c => (c, k)
    | none => d.shortestFrom fuel (n + 1)

def stripZeros : Nat → Nat × Int → Nat × Int
  | 0, p => p
  | fuel + 1, (c, k) => if c % 10 = 0 ∧ 0 < c then stripZeros fuel (c / 10, k + 1) else (c, k)

/-- The shortest decimal `c * 10 ^ k` that reads back as the double, for a finite double that is not
zero. Seventeen digits always suffice. -/
def shortest (d : Double) : Nat × Int :=
  stripZeros 20 (d.shortestFrom 17 1)

/-- Digits with the point put in, for a number whose first digit has the exponent `e`. -/
def positional (digits : List Char) (e : Int) : List Char :=
  if e < 0 then
    '0' :: '.' :: List.replicate (-e - 1).toNat '0' ++ digits
  else
    let whole := e.toNat + 1
    let padded := digits ++ List.replicate (whole - digits.length) '0'
    let after := padded.drop whole
    padded.take whole ++ '.' :: (if after.isEmpty then ['0'] else after)

def scientific (digits : List Char) (e : Int) : List Char :=
  let body := match digits with
    | [] => []
    | [c] => [c]
    | c :: rest => c :: '.' :: rest
  let sign := if e < 0 then '-' else '+'
  body ++ 'e' :: sign :: Text.natDigits e.natAbs

/-- The text of a double: shortest, with a fraction if it is positional. -/
def text (d : Double) : String :=
  let sign := if d.isNegative then ['-'] else []
  let body :=
    if d.biased = 0 ∧ d.fraction = 0 then ['0', '.', '0']
    else
      let (c, k) := d.shortest
      let digits := Text.natDigits c
      let e := k + digits.length - 1
      if -5 ≤ e ∧ e ≤ 15 then positional digits e else scientific digits e
  String.ofList (sign ++ body)

end Double

end RegisterMachine
