import RegisterMachine.Text.Decimal
import RegisterMachine.Json.Token
import RegisterMachine.Toml.Basic

/-!
# Scalars of a TOML document

Strings, numbers, dates and times at the front of a text. Each reader gives the text behind what it
has read, or nothing if what stands there is not well formed. Underscores may stand between two
digits; a number other than zero has no leading zero; a date is one of the calendar. An integer has
to fit 64 bits, and a number with a fraction or an exponent must not overflow.
-/

namespace RegisterMachine.Toml

/-! ## Characters -/

def isBlank (c : Char) : Bool := c = ' ' || c = '\t'

/-- A character that may stand in a comment or a string: no control but the tab. -/
def isPlain (c : Char) : Bool := c = '\t' || (' ' ≤ c && c.toNat ≠ 0x7F)

def newline? : List Char → Option (List Char)
  | '\n' :: rest => some rest
  | '\r' :: '\n' :: rest => some rest
  | _ => none

def scalarChar? (digits : List Char) : Option Char := do
  let ds ← digits.mapM Json.Token.hexDigit?
  let n := ds.foldl (fun n d => n * 16 + d) 0
  if n.isValidChar then some (Char.ofNat n) else none

def escape? (c : Char) : Option Char :=
  if c = '"' then some '"'
  else if c = '\\' then some '\\'
  else if c = 'b' then some '\x08'
  else if c = 'f' then some '\x0c'
  else if c = 'n' then some '\n'
  else if c = 'r' then some '\r'
  else if c = 't' then some '\t'
  else none

def consChar (c : Char) (r : List Char × List Char) : List Char × List Char := (c :: r.1, r.2)

/-! ## Strings -/

def apostrophe : Char := '\x27'

def basic? : List Char → Option (List Char × List Char)
  | [] => none
  | '"' :: rest => some ([], rest)
  | '\\' :: 'u' :: a :: b :: c :: d :: rest => do
    let x ← scalarChar? [a, b, c, d]
    (basic? rest).map (consChar x)
  | '\\' :: 'U' :: a :: b :: c :: d :: e :: f :: g :: h :: rest => do
    let x ← scalarChar? [a, b, c, d, e, f, g, h]
    (basic? rest).map (consChar x)
  | '\\' :: e :: rest => do
    let x ← escape? e
    (basic? rest).map (consChar x)
  | c :: rest => if isPlain c && c ≠ '\\' then (basic? rest).map (consChar c) else none

def literal? : List Char → Option (List Char × List Char)
  | [] => none
  | c :: rest =>
    if c = apostrophe then some ([], rest)
    else if isPlain c then (literal? rest).map (consChar c)
    else none

/-- The text behind the closing quotes of a string of several lines: two more quotes may belong to
it. -/
def closing (quote : Char) : List Char → List Char
  | a :: b :: rest =>
    if a = quote then if b = quote then rest else b :: rest else a :: b :: rest
  | [a] => if a = quote then [] else [a]
  | [] => []

/-- The text behind a basic string of several lines. Behind a backslash at the end of a line,
`folding`, only blanks may come before the line ends. -/
def longBasic? (folding : Bool) : List Char → Option (List Char)
  | [] => none
  | '\n' :: rest => longBasic? false rest
  | '\r' :: '\n' :: rest => longBasic? false rest
  | '\\' :: 'u' :: a :: b :: c :: d :: rest =>
    if !folding && (scalarChar? [a, b, c, d]).isSome then longBasic? false rest else none
  | '\\' :: 'U' :: a :: b :: c :: d :: e :: f :: g :: h :: rest =>
    if !folding && (scalarChar? [a, b, c, d, e, f, g, h]).isSome then longBasic? false rest
    else none
  | '\\' :: '\r' :: '\n' :: rest => if folding then none else longBasic? false rest
  | '\\' :: e :: rest =>
    if folding then none
    else if isBlank e then longBasic? true rest
    else if e = '\n' || (escape? e).isSome then longBasic? false rest
    else none
  | '"' :: '"' :: '"' :: rest => if folding then none else some (closing '"' rest)
  | c :: rest =>
    if isBlank c then longBasic? folding rest
    else if !folding && isPlain c && c ≠ '\\' then longBasic? false rest
    else none

def longLiteral? : List Char → Option (List Char)
  | [] => none
  | '\r' :: '\n' :: rest => longLiteral? rest
  | c :: rest =>
    if c = apostrophe then
      match rest with
      | a :: b :: rest' =>
        if a = apostrophe ∧ b = apostrophe then some (closing apostrophe rest')
        else longLiteral? (a :: b :: rest')
      | _ => none
    else if isPlain c || c = '\n' then longLiteral? rest
    else none

/-- The text behind a string of any form, from its opening quote on. -/
def string? : List Char → Option (List Char)
  | '"' :: '"' :: '"' :: rest => longBasic? false rest
  | '"' :: rest => (basic? rest).map Prod.snd
  | c :: rest =>
    if c = apostrophe then
      match rest with
      | a :: b :: rest' =>
        if a = apostrophe ∧ b = apostrophe then longLiteral? rest'
        else (literal? rest).map Prod.snd
      | _ => (literal? rest).map Prod.snd
    else none
  | [] => none

/-! ## Numbers -/

def digitTail? (p : Char → Bool) : List Char → Option (List Char × List Char)
  | [] => some ([], [])
  | '_' :: c :: rest => if p c then (digitTail? p rest).map (consChar c) else none
  | c :: rest =>
    if c = '_' then none
    else if p c then (digitTail? p rest).map (consChar c)
    else some ([], c :: rest)

def digits? (p : Char → Bool) : List Char → Option (List Char × List Char)
  | [] => none
  | c :: rest => if p c then (digitTail? p rest).map (consChar c) else none

def sign : List Char → Bool × List Char
  | '+' :: rest => (false, rest)
  | '-' :: rest => (true, rest)
  | cs => (false, cs)

def whole? : List Char → Option (List Char × List Char)
  | '0' :: rest => some (['0'], rest)
  | cs => digits? Char.isDigit cs

def fraction? : List Char → Option (Option (List Char) × List Char)
  | '.' :: rest => (digits? Char.isDigit rest).map fun (ds, rest) => (some ds, rest)
  | cs => some (none, cs)

def exponent? : List Char → Option (Option Int × List Char)
  | [] => some (none, [])
  | c :: rest =>
    if c = 'e' || c = 'E' then do
      let (negative, body) := sign rest
      let (ds, rest) ← digits? Char.isDigit body
      let e := Nat.ofDigitChars 10 ds 0
      some (some (if negative then -(e : Int) else e), rest)
    else some (none, c :: rest)

def overflows (m : Nat) (e : Int) : Bool :=
  let magnitude : Int := (Nat.toDigits 10 m).length + e
  if m = 0 ∨ magnitude < 309 then false
  else if 310 < magnitude then true
  else
    let limit := Nat.pow 2 1024 - Nat.pow 2 970
    limit * Nat.pow 10 (-e).toNat ≤ m * Nat.pow 10 e.toNat

def based? (base : Nat) (p : Char → Bool) (cs : List Char) : Option (Toml × List Char) := do
  let (ds, rest) ← digits? p cs
  let values ← ds.mapM Json.Token.hexDigit?
  let n := values.foldl (fun n d => n * base + d) 0
  if (n : Int) ≤ Text.maxInt64 then some (.integer n, rest) else none

def decimal? (negative : Bool) (cs : List Char) : Option (Toml × List Char) := do
  let (whole, cs) ← whole? cs
  let (fraction, cs) ← fraction? cs
  let (exponent, cs) ← exponent? cs
  match fraction, exponent with
  | none, none =>
    let n := Nat.ofDigitChars 10 whole 0
    let n : Int := if negative then -(n : Int) else n
    if Text.minInt64 ≤ n ∧ n ≤ Text.maxInt64 then some (.integer n, cs) else none
  | _, _ =>
    let after := fraction.getD []
    let m := Nat.ofDigitChars 10 (whole ++ after) 0
    let e := exponent.getD 0 - after.length
    if !negative && overflows m e then none else some (.scalar, cs)

def number? : List Char → Option (Toml × List Char)
  | '0' :: 'x' :: rest => based? 16 (fun c => (Json.Token.hexDigit? c).isSome) rest
  | '0' :: 'o' :: rest => based? 8 (fun c => '0' ≤ c && c ≤ '7') rest
  | '0' :: 'b' :: rest => based? 2 (fun c => c = '0' || c = '1') rest
  | cs =>
    match sign cs with
    | (_, 'i' :: 'n' :: 'f' :: rest) => some (.scalar, rest)
    | (_, 'n' :: 'a' :: 'n' :: rest) => some (.scalar, rest)
    | (negative, cs) => decimal? negative cs

/-! ## Dates and times -/

def fixed? (n : Nat) (cs : List Char) : Option (Nat × List Char) :=
  let ds := cs.take n
  if ds.length = n ∧ ds.all Char.isDigit then some (Nat.ofDigitChars 10 ds 0, cs.drop n) else none

def atMost? (limit : Nat) (cs : List Char) : Option (Nat × List Char) :=
  (fixed? 2 cs).filter fun (n, _) => n ≤ limit

def due? (c : Char) : List Char → Option (List Char)
  | d :: rest => if c = d then some rest else none
  | [] => none

def daysIn (year month : Nat) : Nat :=
  if month = 2 then
    if year % 4 = 0 ∧ (year % 100 ≠ 0 ∨ year % 400 = 0) then 29 else 28
  else if month = 4 ∨ month = 6 ∨ month = 9 ∨ month = 11 then 30
  else 31

def date? (cs : List Char) : Option (List Char) := do
  let (year, cs) ← fixed? 4 cs
  let cs ← due? '-' cs
  let (month, cs) ← atMost? 12 cs
  let cs ← due? '-' cs
  let (day, cs) ← atMost? (daysIn year month) cs
  if month = 0 ∨ day = 0 then none else some cs

def secondFraction : List Char → List Char
  | '.' :: rest =>
    match rest.takeWhile Char.isDigit with
    | [] => '.' :: rest
    | _ => rest.dropWhile Char.isDigit
  | cs => cs

def time? (cs : List Char) : Option (List Char) := do
  let (_, cs) ← atMost? 23 cs
  let cs ← due? ':' cs
  let (_, cs) ← atMost? 59 cs
  let cs ← due? ':' cs
  let (_, cs) ← atMost? 60 cs
  some (secondFraction cs)

def offset? : List Char → Option (List Char)
  | [] => some []
  | c :: rest =>
    if c = 'Z' || c = 'z' then some rest
    else if c = '+' || c = '-' then do
      let (_, cs) ← atMost? 23 rest
      let cs ← due? ':' cs
      let (_, cs) ← atMost? 59 cs
      some cs
    else some (c :: rest)

def startsTime (cs : List Char) : Bool :=
  match atMost? 23 cs with
  | some (_, ':' :: _) => true
  | _ => false

def startsDate (cs : List Char) : Bool :=
  match fixed? 4 cs with
  | some (_, '-' :: _) => true
  | _ => false

def timeOfDate? : List Char → Option (List Char)
  | [] => some []
  | c :: rest =>
    if (c = 'T' || c = 't' || c = ' ') && startsTime rest then do offset? (← time? rest)
    else some (c :: rest)

def numeric? (cs : List Char) : Option (Toml × List Char) :=
  if startsDate cs then do
    let rest ← timeOfDate? (← date? cs)
    some (.dateTime, rest)
  else if startsTime cs then do
    let rest ← time? cs
    some (.dateTime, rest)
  else number? cs

end RegisterMachine.Toml
