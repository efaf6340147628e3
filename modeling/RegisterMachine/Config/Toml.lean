import RegisterMachine.Config
import RegisterMachine.Toml.Reader

/-!
# Configuration files

A configuration file is a TOML document whose table `vm` holds the settings by key. It may be an
array instead, with the settings in their order. What is left out keeps its default, and keys that
name no setting are ignored.
-/

namespace RegisterMachine.Config

def ofInteger? : Toml → Option Nat
  | .integer n => if 0 ≤ n then some n.toNat else none
  | _ => none

def set? (c : Config) (v : Toml) : Setting → Option Config
  | .registerCount => (ofInteger? v).map fun n => { c with registerCount := n }
  | .maxCallDepth => (ofInteger? v).map fun n => { c with maxCallDepth := some n }
  | .maxSteps => (ofInteger? v).map fun n => { c with maxSteps := some n }

def settings : List Setting := [.registerCount, .maxCallDepth, .maxSteps]

def ofEntries? (es : Toml.Entries) : Option Config :=
  settings.foldlM (fun c setting =>
    match es.lookup setting.name with
    | some v => c.set? v setting
    | none => some c) {}

def ofArray? (items : List Toml) : Option Config :=
  (items.zip settings).foldlM (fun (c : Config) (v, setting) => c.set? v setting) {}

def ofToml? : Toml → Option Config
  | .table _ es => ofEntries? es
  | .array items => ofArray? items
  | .dateTime => some {}
  | _ => none

def ofText? (s : String) : Option Config := do
  let es ← Toml.document? s
  match es.lookup "vm" with
  | some v => ofToml? v
  | none => some {}

end RegisterMachine.Config
