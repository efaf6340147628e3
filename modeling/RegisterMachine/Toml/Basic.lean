/-!
# TOML documents

The tree of a TOML document, kept as far as settings need it: integers, arrays and tables. Other
scalars are only known to be there, except that a date counts as a table of foreign keys.

A table remembers how it came about, because that decides who may add to it. A header opens a table
for good; a table that is only mentioned on the way to another is implied and may still get its
header; one that is spelled by dotted keys may be extended by dotted keys only; an inline table is
closed.
-/

namespace RegisterMachine

/-- How a table came about, which decides what may be added to it later: an implied one can still
get a header, one of dotted keys further keys, and a closed one nothing. -/
inductive TableKind
  | header
  | implied
  | dotted
  | closed
  deriving DecidableEq, Repr

/-- An item of a TOML document. Integers are kept, and what can be looked up in arrays and tables; of
another scalar it only matters whether it is a date or a time. -/
inductive Toml
  | integer (n : Int)
  | dateTime
  | scalar
  | array (items : List Toml)
  | table (kind : TableKind) (entries : List (String × Toml))
  | tables (items : List (List (String × Toml)))
  deriving Repr

namespace Toml

abbrev Entries := List (String × Toml)

def insertNew? (key : String) (v : Toml) (es : Entries) : Option Entries :=
  match es.lookup key with
  | none => some (es ++ [(key, v)])
  | some _ => none

def replace (key : String) (v : Toml) (es : Entries) : Entries :=
  es.map fun (k, w) => if k = key then (k, v) else (k, w)

def modifyLast? {β : Type} (f : β → Option β) : List β → Option (List β)
  | [] => none
  | [b] => (f b).map fun b => [b]
  | b :: rest => (modifyLast? f rest).map (b :: ·)

/-- Changes the entries at a path of headers. Tables on the way are implied if they are not there,
and of an array of tables the last is meant. -/
def atHeader? (change : Entries → Option Entries) : List String → Entries → Option Entries
  | [], es => change es
  | key :: path, es =>
    match es.lookup key with
    | none => do
      let sub ← atHeader? change path []
      some (es ++ [(key, .table .implied sub)])
    | some (.table .closed _) => none
    | some (.table kind sub) => do
      let sub ← atHeader? change path sub
      some (replace key (.table kind sub) es)
    | some (.tables items) => do
      let items ← modifyLast? (atHeader? change path) items
      some (replace key (.tables items) es)
    | some _ => none

/-- Changes the entries at a path of dotted keys. It must not lead through a table with a header of
its own, and has to end in a table that dotted keys spell. -/
def atDotted? (change : Entries → Option Entries) :
    TableKind → List String → Entries → Option Entries
  | kind, [], es => if kind = .dotted then change es else none
  | _, key :: path, es =>
    match es.lookup key with
    | none => do
      let sub ← atDotted? change .dotted path []
      some (es ++ [(key, .table .dotted sub)])
    | some (.table .dotted sub) => do
      let sub ← atDotted? change .dotted path sub
      some (replace key (.table .dotted sub) es)
    | some (.table .implied sub) => do
      let sub ← atDotted? change .implied path sub
      some (replace key (.table .implied sub) es)
    | some (.tables items) => do
      let items ← modifyLast? (atDotted? change .header path) items
      some (replace key (.tables items) es)
    | some _ => none

/-- A key with its value: the path of a dotted key, and its last part. -/
structure Assignment where
  path : List String
  key : String
  value : Toml
  deriving Repr

def assign? (es : Entries) (a : Assignment) : Option Entries :=
  match a.path with
  | [] => insertNew? a.key a.value es
  | path => atDotted? (insertNew? a.key a.value) .header path es

def assignAll? (as : List Assignment) (es : Entries) : Option Entries :=
  as.foldlM assign? es

/-- A header: whether it opens another member of an array of tables, the path to it, and the last
key. -/
structure Header where
  isArray : Bool
  path : List String
  key : String
  deriving Repr

def Header.open? (h : Header) (fill : Entries → Option Entries) (es : Entries) :
    Option Entries :=
  atHeader? (fun es =>
    match h.isArray, es.lookup h.key with
    | false, none => do some (es ++ [(h.key, .table .header (← fill []))])
    | false, some (.table .implied sub) => do
      some (replace h.key (.table .header (← fill sub)) es)
    | true, none => do some (es ++ [(h.key, .tables [← fill []])])
    | true, some (.tables items) => do
      some (replace h.key (.tables (items ++ [← fill []])) es)
    | _, _ => none) h.path es

inductive Line
  | header (h : Header)
  | assignment (a : Assignment)
  deriving Repr

def assignments : List Line → List Assignment
  | .assignment a :: rest => a :: assignments rest
  | _ => []

def sections : List Line → List (Header × List Assignment)
  | [] => []
  | .header h :: rest => (h, assignments rest) :: sections rest
  | .assignment _ :: rest => sections rest

/-- The entries that the lines of a document come to, unless a key or a table is defined twice. -/
def ofLines? (ls : List Line) : Option Entries := do
  let root ← assignAll? (assignments ls) []
  (sections ls).foldlM (fun es (h, as) => h.open? (assignAll? as) es) root

end Toml

end RegisterMachine
