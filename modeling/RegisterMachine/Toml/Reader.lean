import RegisterMachine.Toml.Scalar

/-!
# Reading TOML

A document is a sequence of lines: blank, a comment, a header in brackets, or an assignment of a
value to a key. Arrays may run over several lines, with comments and a comma behind the last item;
inline tables may not. Keys are bare or quoted, and dots between them make a path.

Brackets nest to a depth of 79, and a key has at most 79 parts.
-/

namespace RegisterMachine.Toml

/-- One more than the depth to which brackets nest, and than the parts of a key. -/
def limit : Nat := 80

def blanks (cs : List Char) : List Char := cs.dropWhile isBlank

def comment (cs : List Char) : List Char := cs.dropWhile isPlain

/-- The text behind the rest of a line: blanks, perhaps a comment, and the end of the line or of the
text. -/
def lineEnd? (cs : List Char) : Option (List Char) :=
  let cs := blanks cs
  let cs := match cs with
    | '#' :: _ => comment cs
    | cs => cs
  match cs with
  | [] => some []
  | cs => newline? cs

def gap : Nat → List Char → List Char
  | 0, cs => cs
  | fuel + 1, cs =>
    match blanks cs with
    | '#' :: rest => gap fuel (comment rest)
    | cs =>
      match newline? cs with
      | some rest => gap fuel rest
      | none => cs

/-! ## Keys -/

def isBare (c : Char) : Bool := c.isAlphanum || c = '_' || c = '-'

def simpleKey? : List Char → Option (String × List Char)
  | '"' :: rest => (basic? rest).map fun (s, rest) => (String.ofList s, rest)
  | cs =>
    match cs with
    | c :: rest =>
      if c = apostrophe then (literal? rest).map fun (s, rest) => (String.ofList s, rest)
      else if isBare c then some (String.ofList (cs.takeWhile isBare), cs.dropWhile isBare)
      else none
    | [] => none

def keyParts? : Nat → List Char → Option (List String × List Char)
  | 0, _ => none
  | fuel + 1, cs => do
    let (part, cs) ← simpleKey? (blanks cs)
    match blanks cs with
    | '.' :: rest => do
      let (parts, rest) ← keyParts? fuel rest
      some (part :: parts, rest)
    | cs => some ([part], cs)

def key? (cs : List Char) : Option (List String × String × List Char) := do
  let (parts, cs) ← keyParts? (limit - 1) cs
  some (parts.dropLast, ← parts.getLast?, cs)

/-! ## Values -/

def items? (value : List Char → Option (Toml × List Char)) :
    Nat → List Char → Option (List Toml × List Char)
  | 0, _ => none
  | fuel + 1, cs =>
    match gap fuel cs with
    | ']' :: rest => some ([], rest)
    | cs => do
      let (v, cs) ← value cs
      match gap fuel cs with
      | ',' :: rest => do
        let (vs, rest) ← items? value fuel rest
        some (v :: vs, rest)
      | ']' :: rest => some ([v], rest)
      | _ => none

def assignment? (value : List Char → Option (Toml × List Char)) (cs : List Char) :
    Option (Assignment × List Char) := do
  let (path, key, cs) ← key? cs
  let cs ← due? '=' cs
  let (v, cs) ← value (blanks cs)
  some (⟨path, key, v⟩, cs)

def pairs? (value : List Char → Option (Toml × List Char)) :
    Nat → List Char → Option (List Assignment × List Char)
  | 0, _ => none
  | fuel + 1, cs => do
    let (a, cs) ← assignment? value cs
    match blanks cs with
    | ',' :: rest => do
      let (as, rest) ← pairs? value fuel rest
      some (a :: as, rest)
    | '\x7d' :: rest => some ([a], rest)
    | _ => none

def inlineTable? (value : List Char → Option (Toml × List Char)) (fuel : Nat)
    (cs : List Char) : Option (Toml × List Char) :=
  match blanks cs with
  | '\x7d' :: rest => some (.table .closed [], rest)
  | cs => do
    let (as, rest) ← pairs? value fuel cs
    let es ← assignAll? as []
    some (.table .closed es, rest)

def word? : List Char → List Char → Option (List Char)
  | [], rest => some rest
  | _ :: _, [] => none
  | c :: cs, d :: rest => if c = d then word? cs rest else none

def value? (fuel : Nat) : Nat → List Char → Option (Toml × List Char)
  | room, cs =>
    match cs, room with
    | [], _ => none
    | '[' :: _, 0 => none
    | '\x7b' :: _, 0 => none
    | '[' :: rest, room + 1 =>
      (items? (value? fuel room) fuel rest).map fun (vs, rest) => (.array vs, rest)
    | '\x7b' :: rest, room + 1 => inlineTable? (value? fuel room) fuel rest
    | c :: rest, _ =>
      if c = '"' || c = apostrophe then (string? cs).map fun rest => (.scalar, rest)
      else if c = 't' then
        (word? ['r', 'u', 'e'] rest).map fun rest => (.scalar, rest)
      else if c = 'f' then
        (word? ['a', 'l', 's', 'e'] rest).map fun rest => (.scalar, rest)
      else numeric? cs

/-! ## Documents -/

def header? (isArray : Bool) (cs : List Char) : Option (Line × List Char) := do
  let (path, key, cs) ← key? cs
  let cs ← due? ']' cs
  let cs ← if isArray then due? ']' cs else some cs
  some (.header ⟨isArray, path, key⟩, ← lineEnd? cs)

def statement? (fuel : Nat) : List Char → Option (Line × List Char)
  | '[' :: '[' :: rest => header? true rest
  | '[' :: rest => header? false rest
  | cs => do
    let (a, cs) ← assignment? (value? fuel (limit - 1)) cs
    some (.assignment a, ← lineEnd? cs)

def lines? : Nat → List Char → Option (List Line)
  | 0, _ => none
  | fuel + 1, cs =>
    match blanks cs with
    | [] => some []
    | '#' :: rest => do lines? fuel (← lineEnd? ('#' :: rest))
    | cs =>
      match newline? cs with
      | some rest => lines? fuel rest
      | none => do
        let (l, rest) ← statement? fuel cs
        (lines? fuel rest).map (l :: ·)

def document? (s : String) : Option Entries := do
  let cs := match s.toList with
    | '\ufeff' :: rest => rest
    | cs => cs
  ofLines? (← lines? (cs.length + 1) cs)

end RegisterMachine.Toml
