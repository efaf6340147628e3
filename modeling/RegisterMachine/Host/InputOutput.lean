import RegisterMachine.Host.Table
import RegisterMachine.Text.CharClass

/-!
# Input and output

Where printed lines go: into a `Transcript`, which keeps them apart, or onto a `Terminal`, where
they join the stream of everything written there.

Where answers come from: a `Script`, which has them ready, or an `Input` of bytes that is read line
by line. A line that spells an integer answers with a number and any other line with its text,
blanks around it taken off. The question, the first argument of the call, is recorded by the script,
and written to the console's own stream or to the terminal.

A transcript and a console keep what they get in memory, where writing does not fail. A terminal
belongs to somebody else, and writing to it can.
-/

namespace RegisterMachine

/-! ## Output -/

/-- The lines printed so far, each without its line end, so that one line which holds a line end is
not taken for two. -/
structure Transcript where
  lines : Array String := #[]
  deriving DecidableEq, Repr

def Transcript.writeLine (line : String) (t : Transcript) : Except Error Unit × Transcript :=
  (.ok (), ⟨t.lines.push line⟩)

/-- A write that fails: how many of its characters have come through, and the system's words for
the failure. -/
structure Outage where
  written : Nat
  detail : String
  deriving DecidableEq, Repr

/-- A terminal: what has been written to it, and what becomes of the writes to come, `none` for one
that succeeds. The list is how a closed pipe or a full disk gets into the model, since nothing in
the machine decides when they happen; writes behind its end succeed. -/
structure Terminal where
  text : String := ""
  outages : List (Option Outage) := []
  deriving DecidableEq, Repr

def Terminal.write (s : String) (t : Terminal) : Except Error Unit × Terminal :=
  match t.outages with
  | [] => (.ok (), { t with text := t.text ++ s })
  | none :: rest => (.ok (), ⟨t.text ++ s, rest⟩)
  | some o :: rest =>
    (.error (.io o.detail), ⟨t.text ++ String.ofList (s.toList.take o.written), rest⟩)

/-- A write that fails is reported as such, and as nothing else. -/
theorem Terminal.write_result (s : String) (t : Terminal) :
    (t.write s).1 = .ok () ∨ ∃ detail, (t.write s).1 = .error (.io detail) := by
  unfold write
  split
  · exact .inl rfl
  · exact .inl rfl
  · exact .inr ⟨_, rfl⟩

def Terminal.writeLine (line : String) (t : Terminal) : Except Error Unit × Terminal :=
  t.write (line ++ "\n")

def printedLine (args : List Value) : String :=
  String.intercalate " " (args.map Value.display)

/-! ## Input -/

/-- What a line of input means: an integer of 64 bits is a number, anything else is text, and the
blanks around it do not count. -/
def parseInput (line : String) : Value :=
  let trimmed := Text.trim line.toList
  match Text.readInt64? trimmed with
  | some n => .number n
  | none => .text (String.ofList trimmed)

def promptName : String := "prompt"

def question? (args : List Value) : Option String :=
  args.head?.map Value.display

structure Script where
  responses : List Value := []
  prompts : Array String := #[]
  deriving DecidableEq, Repr

def Script.ask (args : List Value) (s : Script) : Script :=
  match question? args with
  | some q => { s with prompts := s.prompts.push q }
  | none => s

/-- Answers with the next response. The question is recorded even if none is left. -/
def Script.call (args : List Value) (s : Script) : Reply × Script :=
  let s := s.ask args
  match s.responses with
  | v :: rest => (.ok (some v), { s with responses := rest })
  | [] => (.error (.host promptName "script exhausted"), s)

structure Input where
  unread : List UInt8 := []
  deriving DecidableEq, Repr

namespace Input

def newline : UInt8 := 10

def line (i : Input) : List UInt8 :=
  i.unread.takeWhile (· ≠ newline) ++ (i.unread.dropWhile (· ≠ newline)).take 1

def rest (i : Input) : Input :=
  ⟨(i.unread.dropWhile (· ≠ newline)).drop 1⟩

def decode? (bytes : List UInt8) : Option String :=
  String.fromUTF8? ⟨bytes.toArray⟩

def notText : String := "stream did not contain valid UTF-8"

/-- The answer in the next line. The line is used up whatever it holds. -/
def answer (i : Input) : Reply × Input :=
  if i.unread.isEmpty then (.error (.host promptName "end of input"), i)
  else
    match decode? i.line with
    | some s => (.ok (some (parseInput s)), i.rest)
    | none => (.error (.io notText), i.rest)

end Input

/-- A console with a stream of its own for the questions, which keeps them apart from what is
printed. -/
structure Console where
  input : Input := {}
  echo : String := ""
  deriving DecidableEq, Repr

def Console.call (args : List Value) (c : Console) : Reply × Console :=
  let (reply, input) := c.input.answer
  (reply, ⟨input, c.echo ++ (question? args).getD ""⟩)

/-- Asks on the terminal, and answers with the next line of the input. If the question cannot be
written, the input is left alone. -/
def Terminal.call (args : List Value) (i : Input) (t : Terminal) : Reply × Input × Terminal :=
  match question? args with
  | none =>
    let (reply, input) := i.answer
    (reply, input, t)
  | some q =>
    match t.write q with
    | (.error e, t) => (.error e, i, t)
    | (.ok (), t) =>
      let (reply, input) := i.answer
      (reply, input, t)

/-- A call on the terminal is answered by the input, unless the question cannot be written. -/
theorem Terminal.call_reply (args : List Value) (i : Input) (t : Terminal) :
    (t.call args i).1 = i.answer.1 ∨ ∃ detail, (t.call args i).1 = .error (.io detail) := by
  unfold call
  split
  · exact .inl rfl
  · next q _ =>
      have hresult := t.write_result q
      cases hw : t.write q with
      | mk result t' =>
          rw [hw] at hresult
          cases result with
          | ok _ => exact .inl rfl
          | error e =>
              rcases hresult with h | ⟨detail, h⟩
              · cases h
              · cases h
                exact .inr ⟨detail, rfl⟩

end RegisterMachine
