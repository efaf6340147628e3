import RegisterMachine.Json.Basic

/-!
# Configuration

The limits of a machine: how many registers it has, how deep subroutines may nest, and how many
instructions it may execute. No limit is the default for the latter two.
-/

namespace RegisterMachine

/-- The limits of a machine. A limit that is absent is no limit; the number of registers cannot be
absent, since a machine is built with so many. -/
structure Config where
  registerCount : Nat := 12
  maxCallDepth : Option Nat := none
  maxSteps : Option Nat := none
  deriving DecidableEq, Repr

namespace Config

def withMaxSteps (c : Config) (steps : Nat) : Config := { c with maxSteps := some steps }

def withMaxCallDepth (c : Config) (depth : Nat) : Config := { c with maxCallDepth := some depth }

inductive DecodeError
  | mismatch (cause : Json.Mismatch)
  | tooLong (length : Nat)
  deriving DecidableEq, Repr

def DecodeError.message : DecodeError → String
  | .mismatch cause => cause.message
  | .tooLong length =>
    "invalid length " ++ Text.ofNat length ++ ", expected fewer elements in array"

def count (expected : Json.Expected) (v : Json) : Except DecodeError Nat :=
  ((v.shape.toWord expected).map UInt64.toNat).mapError .mismatch

def limit (expected : Json.Expected) : Json → Except DecodeError (Option Nat)
  | .null => .ok none
  | v => (count expected v).map some

inductive Setting
  | registerCount
  | maxCallDepth
  | maxSteps
  deriving DecidableEq, Repr

def Setting.name : Setting → String
  | .registerCount => "register_count"
  | .maxCallDepth => "max_call_depth"
  | .maxSteps => "max_steps"

def apply (c : Config) (v : Json) : Setting → Except DecodeError Config
  | .registerCount => (count .size v).map fun n => { c with registerCount := n }
  | .maxCallDepth => (limit .size v).map fun n => { c with maxCallDepth := n }
  | .maxSteps => (limit .unsigned v).map fun n => { c with maxSteps := n }

/-- Settings by key, taken in the order of their names and not in that of the text, which decides
between several faults. -/
def ofFields (fields : List (String × Json)) : Except DecodeError Config :=
  [Setting.maxCallDepth, .maxSteps, .registerCount].foldlM (fun c setting =>
    match fields.find? fun f => f.1 == setting.name with
    | some (_, v) => c.apply v setting
    | none => .ok c) {}

/-- Settings by place; the last ones may be left out. That there are too many is only noticed when
those in place have been read. -/
def ofItems (items : List Json) : Except DecodeError Config := do
  let c ← (items.zip [Setting.registerCount, .maxCallDepth, .maxSteps]).foldlM
    (fun (c : Config) (v, setting) => c.apply v setting) {}
  if items.length ≤ 3 then .ok c else .error (.tooLong items.length)

/-- The configuration that JSON spells: settings by key, where other keys are ignored, or a list of
them. -/
def ofJson : Json → Except DecodeError Config
  | .record fields => ofFields fields
  | .list items => ofItems items
  | v => .error (.mismatch (.type v.shape .config))

end Config

end RegisterMachine
