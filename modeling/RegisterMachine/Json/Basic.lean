import RegisterMachine.Double
import RegisterMachine.Text.Quoted

/-!
# JSON values

The tree of a JSON text, with fields in the order of the text and repeated keys kept. Numbers are
integers where 64 bits hold them, signed or unsigned, and doubles otherwise.

`Mismatch` is the complaint of a reader that wanted something else than it found; it names what was
found by its `Shape`, which for a list or a record says no more than that.
-/

namespace RegisterMachine

inductive Number
  | int (n : Int)
  | double (d : Double)
  deriving DecidableEq, Repr

inductive Json
  | null
  | bool (b : Bool)
  | number (n : Number)
  | text (s : String)
  | list (items : List Json)
  | record (fields : List (String × Json))
  deriving Repr

namespace Json

/-- What a reader sees of a value before it goes into it: a list or a record has been opened, and
its members are still to be read. -/
inductive Shape
  | null
  | bool (b : Bool)
  | number (n : Number)
  | text (s : String)
  | list
  | record
  deriving DecidableEq, Repr

def shape : Json → Shape
  | .null => .null
  | .bool b => .bool b
  | .number n => .number n
  | .text s => .text s
  | .list _ => .list
  | .record _ => .record

def Shape.describe : Shape → String
  | .null => "null"
  | .bool b => "boolean `" ++ (if b then "true" else "false") ++ "`"
  | .number (.int n) => "integer `" ++ Text.ofInt n ++ "`"
  | .number (.double d) => "floating point `" ++ d.text ++ "`"
  | .text s => "string " ++ Text.quote s
  | .list => "sequence"
  | .record => "map"

/-- What a reader can ask for, as a message puts it. Some differ in name only: `size` and `unsigned`
both stand for an unsigned word. -/
inductive Expected
  | sequence
  | instruction
  | config
  | text
  | boolean
  | signed
  | size
  | unsigned
  | tagged
  deriving DecidableEq, Repr

def Expected.describe : Expected → String
  | .sequence => "a sequence"
  | .instruction => "struct Instruction"
  | .config => "struct VmConfig"
  | .text => "a string"
  | .boolean => "a boolean"
  | .signed => "i64"
  | .size => "usize"
  | .unsigned => "u64"
  | .tagged => "string or map"

/-- The complaint about a value that is not what was asked for: of the wrong shape, or an integer
outside the range. -/
inductive Mismatch
  | type (found : Shape) (expected : Expected)
  | range (found : Int) (expected : Expected)
  deriving DecidableEq, Repr

def Mismatch.message : Mismatch → String
  | .type found expected =>
    "invalid type: " ++ found.describe ++ ", expected " ++ expected.describe
  | .range found expected =>
    "invalid value: integer `" ++ Text.ofInt found ++ "`, expected " ++ expected.describe

def Shape.toWord (expected : Expected) : Shape → Except Mismatch UInt64
  | .number (.int n) =>
    match Text.toWord? n with
    | some w => .ok w
    | none => .error (.range n expected)
  | found => .error (.type found expected)

def Shape.toInt64 : Shape → Except Mismatch Int64
  | .number (.int n) =>
    match Text.toInt64? n with
    | some w => .ok w
    | none => .error (.range n .signed)
  | found => .error (.type found .signed)

def Shape.toBool : Shape → Except Mismatch Bool
  | .bool b => .ok b
  | found => .error (.type found .boolean)

def Shape.toText : Shape → Except Mismatch String
  | .text s => .ok s
  | found => .error (.type found .text)

end Json

end RegisterMachine
