import RegisterMachine.Json.Token

/-!
# Reading JSON

Readers take the tokens of a text and give back what they read with the tokens behind it. The
readers for lists and records are shared: a caller says how an item or a field is read and gets the
rules on brackets, commas and colons, so that every reader finds the same fault at the same place.

Two things bound a reader. Brackets nest to a depth of 127 in a value that is read (`Json.depth`).
And each list or record has at most as many members as there are tokens, which is what the loops
count down. A caller gives them as many turns as there are tokens, so that they never come to the
end of that count; what they would report there is not what a text that stops too early is reported
for.

A value that nobody asked for is skipped instead of read: `skip` goes through it with its own stack
of brackets, at any depth.
-/

namespace RegisterMachine.Json

def depth : Nat := 127

/-- What stands where a value is due, and the tokens behind it; of a list or a record that is the
opening bracket. -/
def head : List Token → Except Defect (Shape × List Token)
  | [] => .error .endOfInput
  | .null :: ts => .ok (.null, ts)
  | .bool b :: ts => .ok (.bool b, ts)
  | .number n :: ts =>
    match n.value? with
    | some n => .ok (.number n, ts)
    | none => .error .malformed
  | .text s :: ts => .ok (.text s, ts)
  | .listOpen :: ts => .ok (.list, ts)
  | .recordOpen :: ts => .ok (.record, ts)
  | .brokenText reading _ :: _ => .error reading
  | .brokenScalar reading _ :: _ => .error reading
  | _ :: _ => .error .malformed

/-! ## Lists -/

def listStart : List Token → Except Defect (Bool × List Token)
  | [] => .error .endOfInput
  | .listClose :: ts => .ok (false, ts)
  | ts => .ok (true, ts)

def listNext : List Token → Except Defect (Bool × List Token)
  | [] => .error .endOfInput
  | .listClose :: ts => .ok (false, ts)
  | [.comma] => .error .endOfInput
  | .comma :: .listClose :: _ => .error .malformed
  | .comma :: ts => .ok (true, ts)
  | _ => .error .malformed

variable {ε α σ : Type}

/-- The items of a list from the next one on, up to the closing bracket. Each takes at least one
token, so that as many turns as there are tokens suffice. -/
def readItems (lift : Defect → ε) (item : List Token → Except ε (α × List Token)) :
    Nat → List Token → Except ε (List α × List Token)
  | 0, _ => .error (lift .malformed)
  | fuel + 1, ts => do
    let (a, ts) ← item ts
    let (more, ts) ← (listNext ts).mapError lift
    if more then
      let (as, ts) ← readItems lift item fuel ts
      .ok (a :: as, ts)
    else .ok ([a], ts)

def readList (lift : Defect → ε) (item : List Token → Except ε (α × List Token)) (fuel : Nat)
    (ts : List Token) : Except ε (List α × List Token) := do
  let (more, ts) ← (listStart ts).mapError lift
  if more then readItems lift item fuel ts else .ok ([], ts)

/-! ## Records -/

def key : List Token → Except Defect (String × List Token)
  | [] => .error .endOfInput
  | .text s :: ts => .ok (s, ts)
  | .brokenText reading _ :: _ => .error reading
  | _ :: _ => .error .malformed

def recordStart : List Token → Except Defect (Option String × List Token)
  | .recordClose :: ts => .ok (none, ts)
  | ts => (key ts).map fun (k, ts) => (some k, ts)

def recordNext : List Token → Except Defect (Option String × List Token)
  | [] => .error .endOfInput
  | .recordClose :: ts => .ok (none, ts)
  | .comma :: ts => (key ts).map fun (k, ts) => (some k, ts)
  | _ => .error .malformed

def colon : List Token → Except Defect (List Token)
  | [] => .error .endOfInput
  | .colon :: ts => .ok ts
  | _ => .error .malformed

/-- The fields of a record from a given key on. A field is read from behind its key, colon
included, into what has been gathered so far. -/
def readFields (lift : Defect → ε)
    (field : σ → String → List Token → Except ε (σ × List Token)) :
    Nat → σ → String → List Token → Except ε (σ × List Token)
  | 0, _, _, _ => .error (lift .malformed)
  | fuel + 1, s, k, ts => do
    let (s, ts) ← field s k ts
    let (next, ts) ← (recordNext ts).mapError lift
    match next with
    | some k => readFields lift field fuel s k ts
    | none => .ok (s, ts)

def readRecord (lift : Defect → ε)
    (field : σ → String → List Token → Except ε (σ × List Token)) (fuel : Nat) (s : σ)
    (ts : List Token) : Except ε (σ × List Token) := do
  let (first, ts) ← (recordStart ts).mapError lift
  match first with
  | some k => readFields lift field fuel s k ts
  | none => .ok (s, ts)

/-! ## Values -/

def pushField (value : List Token → Except Defect (Json × List Token))
    (fields : Array (String × Json)) (k : String) (ts : List Token) :
    Except Defect (Array (String × Json) × List Token) := do
  let ts ← colon ts
  let (v, ts) ← value ts
  .ok (fields.push (k, v), ts)

/-- A value whose members are read by `inner`. Without it there is no room for brackets. -/
def readValue (fuel : Nat) (inner : Option (List Token → Except Defect (Json × List Token)))
    (ts : List Token) : Except Defect (Json × List Token) := do
  let (found, ts) ← head ts
  match found, inner with
  | .null, _ => .ok (.null, ts)
  | .bool b, _ => .ok (.bool b, ts)
  | .number n, _ => .ok (.number n, ts)
  | .text s, _ => .ok (.text s, ts)
  | .list, none => .error .malformed
  | .record, none => .error .malformed
  | .list, some inner =>
    let (items, ts) ← readList id inner fuel ts
    .ok (.list items, ts)
  | .record, some inner =>
    let (fields, ts) ← readRecord id (pushField inner) fuel #[] ts
    .ok (.record fields.toList, ts)

/-- A value, with brackets nested at most so deep. The recursion is on the room that is left for
brackets, of which `readValue` uses up one level. -/
def read (fuel : Nat) : Nat → List Token → Except Defect (Json × List Token)
  | 0 => readValue fuel none
  | room + 1 => readValue fuel (some (read fuel room))

def finish : List Token → Except Defect Unit
  | [] => .ok ()
  | _ :: _ => .error .malformed

def ofText (s : String) : Except Defect Json := do
  let ts := Token.scan s.toList
  let (v, ts) ← read ts.length depth ts
  finish ts
  .ok v

/-! ## Skipping -/

inductive Bracket
  | list
  | record
  deriving DecidableEq, Repr

/-- What may come next while a value is skipped: a value; an item or the end of an empty list; a
key; a key or the end of an empty record; a colon; or whatever follows a value. -/
inductive Due
  | value
  | item
  | key
  | field
  | colon
  | after
  deriving DecidableEq, Repr

/-- Goes through a value without looking at it, inside the open brackets. A string need not stand
for a text here, nor a number be one that a double can hold. -/
def skip : Due → List Bracket → List Token → Except Defect (List Token)
  | .after, [], ts => .ok ts
  | _, _, [] => .error .endOfInput
  | .after, open_ :: outer, t :: ts =>
    match open_, t with
    | .list, .listClose => skip .after outer ts
    | .record, .recordClose => skip .after outer ts
    | .list, .comma => skip .value (.list :: outer) ts
    | .record, .comma => skip .key (.record :: outer) ts
    | _, _ => .error .malformed
  | .colon, outer, t :: ts =>
    match t with
    | .colon => skip .value outer ts
    | _ => .error .malformed
  | .field, outer, .recordClose :: ts => skip .after outer.tail ts
  | .item, outer, .listClose :: ts => skip .after outer.tail ts
  | .field, outer, t :: ts | .key, outer, t :: ts =>
    match t with
    | .text _ => skip .colon outer ts
    | .looseText => skip .colon outer ts
    | .brokenText _ skipping => .error skipping
    | _ => .error .malformed
  | .item, outer, t :: ts | .value, outer, t :: ts =>
    match t with
    | .null => skip .after outer ts
    | .bool _ => skip .after outer ts
    | .number _ => skip .after outer ts
    | .text _ => skip .after outer ts
    | .looseText => skip .after outer ts
    | .listOpen => skip .item (.list :: outer) ts
    | .recordOpen => skip .field (.record :: outer) ts
    | .brokenText _ skipping => .error skipping
    | .brokenScalar _ skipping => .error skipping
    | _ => .error .malformed

def skipValue (ts : List Token) : Except Defect (List Token) :=
  skip .value [] ts

end RegisterMachine.Json
