import RegisterMachine.CommandLine.Terminal

/-!
# The program `rvm`

Reads files, the environment and the terminal, and leaves every decision to
`RegisterMachine.CommandLine`.
-/

namespace RegisterMachine.CommandLine

def systemMessage : IO.Error → String
  | .noFileOrDirectory .. => "No such file or directory (os error 2)"
  | .inappropriateType .. => "Is a directory (os error 21)"
  | .permissionDenied .. => "Permission denied (os error 13)"
  | e => toString e

def readFile (path : String) : IO (Except String (List UInt8)) := do
  try
    let bytes ← IO.FS.readBinFile path
    return .ok bytes.toList
  catch e => return .error (systemMessage e)

def readFiles (c : Command) : IO Files := do
  let paths := match c with
    | .run file config .. => file :: config.toList
    | .check file config => file :: config.toList
    | .demo _ => []
  let contents ← paths.mapM fun path => do return (path, ← readFile path)
  return fun path => (contents.lookup path).getD (.error "No such file or directory (os error 2)")

def say (stream : IO.FS.Stream) (s : String) : IO Unit := do
  unless s.isEmpty do
    stream.putStr s
    stream.flush

/-- Reads until there is a line to answer with, or no more input. -/
partial def awaitLine (m : TerminalMachine) : IO TerminalMachine := do
  if (TerminalMachine.unread m).contains Input.newline then return m
  let bytes ← (← IO.getStdin).read 4096
  if bytes.isEmpty then return m
  awaitLine (TerminalMachine.feed m bytes.toList)

/-- Steps a machine to its end, with questions shown before they are answered and output and log as
they come. -/
partial def drive (filter : LogFilter) (m : TerminalMachine) :
    IO (Registers × Except Error Machine.Report) := do
  match m.status with
  | .halted reason =>
    say (← IO.getStderr) (logText filter [.halted reason m.steps])
    return (m.core.registers, .ok ⟨reason, m.steps⟩)
  | .running =>
    let (asked, m) ← match TerminalMachine.question? m with
      | some q => do
        say (← IO.getStdout) q
        pure (q, ← awaitLine m)
      | none => pure ("", m)
    let o := m.step Standard.terminal
    let (written, m) := TerminalMachine.takeOutput o.machine
    say (← IO.getStdout) (String.ofList (written.toList.drop asked.length))
    say (← IO.getStderr) (logText filter o.events)
    match o.result with
    | .ok () => drive filter m
    | .error e => return (m.core.registers, .error e)

def showEnding (e : Ending) : IO Nat := do
  say (← IO.getStdout) e.stdout
  say (← IO.getStderr) e.stderr
  return e.code

def carryOut (filter : LogFilter) : Stage → IO Nat
  | .start events job => do
    let stderr ← IO.getStderr
    say stderr (logText filter events)
    let (registers, result) ← drive filter (job.machine {})
    let (code, said) := job.conclude filter registers result
    say stderr said
    return code
  | .over events stdout failure => showEnding (overEnding filter events stdout failure)

end RegisterMachine.CommandLine

open RegisterMachine.CommandLine in
def main (args : List String) : IO UInt32 := do
  match Invocation.ofArgs args with
  | .error refusal => return (← showEnding refusal.ending).toUInt32
  | .ok inv =>
    let setting ← IO.getEnv "RUST_LOG"
    let filter := LogFilter.choose inv.verbose inv.trace setting
    let code ← carryOut filter (inv.command.stage (← readFiles inv.command))
    return code.toUInt32
