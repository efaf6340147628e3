import RegisterMachine.CommandLine.Session
import RegisterMachine.Machine.Effect

/-!
# A machine on a terminal, step by step

A person at a terminal wants to see the question before typing the answer. `question?` tells, before
a step, whether it will ask for input and what it will ask; `feed` adds input that has arrived; and
`takeOutput` takes what has been written since.
-/

namespace RegisterMachine.CommandLine

abbrev TerminalMachine := Machine (Standard Input) Terminal

namespace TerminalMachine

def unread (m : TerminalMachine) : List UInt8 :=
  match m.world.hosts.functions[promptIndex]? with
  | some ⟨_, .input i⟩ => i.unread
  | _ => []

def feed (m : TerminalMachine) (bytes : List UInt8) : TerminalMachine :=
  let memory := .input ⟨unread m ++ bytes⟩
  { m with world := { m.world with hosts := m.world.hosts.remember promptIndex memory } }

def takeOutput (m : TerminalMachine) : String × TerminalMachine :=
  (m.world.sink.text, { m with world := { m.world with sink := { m.world.sink with text := "" } } })

/-- The question of the next step, if it asks for input; a call without an argument asks nothing. -/
def question? (m : TerminalMachine) : Option String :=
  match m.status, m.current?, m.spentBudget? with
  | .running, some i, none =>
    match i.decode with
    | .error _ => none
    | .ok op =>
      match m.advance.effect i op with
      | .ok (.invoke host args _) =>
        if host = promptIndex then some ((RegisterMachine.question? args).getD "") else none
      | _ => none
  | _, _, _ => none

end TerminalMachine

end RegisterMachine.CommandLine
