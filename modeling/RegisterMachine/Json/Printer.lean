import RegisterMachine.Json.Basic

/-!
# Writing JSON

Two layouts of one value: `compact` on one line without blanks, and `pretty` with a member to a line
and two blanks of indentation for each bracket. A string escapes the quote, the backslash and the
controls, and writes everything else as it is.
-/

namespace RegisterMachine.Json

def unitDigits (n : Nat) : List Char :=
  let ds := Nat.toDigits 16 n
  List.replicate (4 - ds.length) '0' ++ ds

def escapeChar (c : Char) : List Char :=
  if c = '"' then ['\\', '"']
  else if c = '\\' then ['\\', '\\']
  else if c = '\x08' then ['\\', 'b']
  else if c = '\t' then ['\\', 't']
  else if c = '\n' then ['\\', 'n']
  else if c = '\x0c' then ['\\', 'f']
  else if c = '\r' then ['\\', 'r']
  else if c < ' ' then '\\' :: 'u' :: unitDigits c.toNat
  else [c]

def string (s : String) : List Char :=
  '"' :: s.toList.flatMap escapeChar ++ ['"']

def Number.write : Number → List Char
  | .int n => Text.intDigits n
  | .double d => d.text.toList

def boolean (b : Bool) : List Char :=
  if b then ['t', 'r', 'u', 'e'] else ['f', 'a', 'l', 's', 'e']

mutual

def compact : Json → List Char
  | .null => ['n', 'u', 'l', 'l']
  | .bool b => boolean b
  | .number n => Number.write n
  | .text s => string s
  | .list items => '[' :: compactItems items ++ [']']
  | .record fields => '\x7b' :: compactFields fields ++ ['\x7d']

def compactItems : List Json → List Char
  | [] => []
  | [v] => compact v
  | v :: w :: rest => compact v ++ ',' :: compactItems (w :: rest)

def compactFields : List (String × Json) → List Char
  | [] => []
  | [(k, v)] => string k ++ ':' :: compact v
  | (k, v) :: f :: rest => string k ++ ':' :: compact v ++ ',' :: compactFields (f :: rest)

end

def newline (level : Nat) : List Char :=
  '\n' :: List.replicate (2 * level) ' '

mutual

/-- A value with a member to a line, inside so many brackets. A list or a record without members
stays on one line. -/
def pretty (level : Nat) : Json → List Char
  | .null => ['n', 'u', 'l', 'l']
  | .bool b => boolean b
  | .number n => Number.write n
  | .text s => string s
  | .list [] => ['[', ']']
  | .list (v :: rest) =>
    '[' :: newline (level + 1) ++ prettyItems (level + 1) (v :: rest) ++ newline level ++ [']']
  | .record [] => ['\x7b', '\x7d']
  | .record (f :: rest) =>
    '\x7b' :: newline (level + 1) ++ prettyFields (level + 1) (f :: rest) ++ newline level ++
      ['\x7d']

def prettyItems (level : Nat) : List Json → List Char
  | [] => []
  | [v] => pretty level v
  | v :: w :: rest =>
    pretty level v ++ ',' :: newline level ++ prettyItems level (w :: rest)

def prettyFields (level : Nat) : List (String × Json) → List Char
  | [] => []
  | [(k, v)] => string k ++ ':' :: ' ' :: pretty level v
  | (k, v) :: f :: rest =>
    string k ++ ':' :: ' ' :: pretty level v ++ ',' :: newline level ++
      prettyFields level (f :: rest)

end

def toText (v : Json) : String := String.ofList v.compact

def toPrettyText (v : Json) : String := String.ofList (v.pretty 0)

end RegisterMachine.Json
