import RegisterMachine.Value
import RegisterMachine.Program.Printer
import RegisterMachine.Json.Reader

/-!
# Values as JSON

A value is a record of one field, whose key is the name of its kind. So a number, a handle and an
address of the same payload stay apart, and so does a text from what it looks like. `Value.dump` is
the form in which a register file is shown, and `Value.ofDump?` reads it back.
-/

namespace RegisterMachine

namespace Value

def toJson : Value → Json
  | .number n => .record [("Number", .int n.toInt)]
  | .boolean b => .record [("Boolean", .bool b)]
  | .text s => .record [("Text", .text s)]
  | .host index => .record [("Host", .word index)]
  | .address target => .record [("Address", .word target)]

inductive DecodeError
  | mismatch (cause : Json.Mismatch)
  | fieldCount
  | unknownTag (tag : String)
  deriving DecidableEq, Repr

def DecodeError.message : DecodeError → String
  | .mismatch cause => cause.message
  | .fieldCount => "invalid value: map, expected map with a single key"
  | .unknownTag tag =>
    "unknown variant `" ++ tag ++
      "`, expected one of `Number`, `Boolean`, `Text`, `Host`, `Address`"

def ofTag (tag : String) (v : Json) : Except DecodeError Value :=
  if tag = "Number" then (v.shape.toInt64.map .number).mapError .mismatch
  else if tag = "Boolean" then (v.shape.toBool.map .boolean).mapError .mismatch
  else if tag = "Text" then (v.shape.toText.map .text).mapError .mismatch
  else if tag = "Host" then ((v.shape.toWord .size).map .host).mapError .mismatch
  else if tag = "Address" then ((v.shape.toWord .size).map .address).mapError .mismatch
  else .error (.unknownTag tag)

def ofJson : Json → Except DecodeError Value
  | .record [(tag, v)] => ofTag tag v
  | .record _ => .error .fieldCount
  | v => .error (.mismatch (.type v.shape .tagged))

def dump (vs : List Value) : String :=
  (Json.list (vs.map toJson)).toPrettyText

def ofDump? (s : String) : Option (List Value) :=
  match Json.ofText s with
  | .ok (.list items) => items.mapM fun v => (ofJson v).toOption
  | _ => none

end Value

end RegisterMachine
