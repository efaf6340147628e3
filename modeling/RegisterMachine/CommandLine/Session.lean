import RegisterMachine.CommandLine.Arguments
import RegisterMachine.CommandLine.LogFilter
import RegisterMachine.Config.Toml
import RegisterMachine.Host.Standard
import RegisterMachine.Machine.Step
import RegisterMachine.Program.Reader
import RegisterMachine.Program.Samples
import RegisterMachine.Value.Json

/-!
# Sessions

What a command does, apart from doing it: which files it reads, what it prints, what it logs, and
how it ends. Files are a function from paths to contents. A command either is over when its files
have been read, or it goes on to run a machine on the terminal; `Job` is what has to be run then,
and `Job.conclude` what is to be said afterwards.
-/

namespace RegisterMachine.CommandLine

/-- The contents of a file, or why it cannot be read. As files are a function, what a command comes
to can be stated without any input or output. -/
abbrev Files := String → Except String (List UInt8)

def readText (files : Files) (path : String) : Except String String := do
  match Input.decode? (← files path) with
  | some s => .ok s
  | none => .error Input.notText

structure Ending where
  code : Nat
  stdout : String
  stderr : String
  deriving DecidableEq, Repr

structure Job where
  config : Config
  program : Program
  dumpRegisters : Bool
  deriving DecidableEq, Repr

/-- A command whose files have been read: over, with its output and perhaps a failure, or with a
job to do. -/
inductive Stage
  | over (events : List Event) (stdout : String) (failure : Option String)
  | start (events : List Event) (job : Job)
  deriving DecidableEq, Repr

def Stage.refuse (message : String) : Stage := .over [] "" (some message)

def loadConfig (files : Files) : Option String → Except String Config
  | none => .ok {}
  | some path => do
    let text ← (readText files path).mapError fun e => "cannot read " ++ path ++ ": " ++ e
    match Config.ofText? text with
    | some c => .ok c
    | none => .error ("invalid config " ++ path)

/-- Runs the program in a text; a strict run refuses one that the structural check objects to. -/
def Stage.runText (config : Config) (dumpRegisters strict : Bool) (text : String) : Stage :=
  match Program.ofText text with
  | .error e => .refuse (Error.load e).message
  | .ok p =>
    let events := [Event.parsed p.length]
    let accepted := if strict then p.strict config.registerCount standardCount else .ok p
    match accepted with
    | .error e => .over events "" (some (Error.load e).message)
    | .ok p => .start events ⟨config, p, dumpRegisters⟩

def checkLines (file : String) (p : Program) : List Diagnostic → String
  | [] => file ++ ": " ++ Text.ofNat p.length ++ " instructions, ok\n"
  | ds => String.join (ds.map fun d => file ++ ": " ++ d.text ++ "\n")

def Stage.checkText (config : Config) (file text : String) : Stage :=
  match Program.ofText text with
  | .error e => .refuse (Error.load e).message
  | .ok p =>
    let ds := p.check config.registerCount standardCount
    .over [.parsed p.length] (checkLines file p ds)
      (if ds.isEmpty then none else some (Text.ofNat ds.length ++ " problem(s) found"))

/-- What a command comes to once its files have been read: the configuration first. -/
def Command.stage (files : Files) : Command → Stage
  | .run file config maxSteps dumpRegisters strict =>
    match loadConfig files config with
    | .error e => .refuse e
    | .ok c =>
      let c := match maxSteps with
        | some n => c.withMaxSteps n
        | none => c
      match readText files file with
      | .error e => .refuse ("cannot read " ++ file ++ ": " ++ e)
      | .ok text => .runText c dumpRegisters strict text
  | .check file config =>
    match loadConfig files config with
    | .error e => .refuse e
    | .ok c =>
      match readText files file with
      | .error e => .refuse (Error.io e).message
      | .ok text => .checkText c file text
  | .demo name =>
    match Program.sample? name with
    | some p => .start [] ⟨{}, p, false⟩
    | none =>
      .refuse ("unknown demo '" ++ name ++ "' (expected one of: " ++
        String.intercalate ", " Program.sampleNames ++ ")")

def logText (filter : LogFilter) (events : List Event) : String :=
  String.join ((events.filter filter.admits).map fun e => e.line ++ "\n")

def failureText (message : String) : String := "error: " ++ message ++ "\n"

namespace Job

def machine (job : Job) (input : Input) : Machine (Standard Input) Terminal :=
  .boot job.config job.program ⟨Standard.table input, {}⟩

/-- What is said after a run, behind its log: the registers if they were asked for, and then how it
ended. -/
def conclude (job : Job) (filter : LogFilter) (registers : Registers)
    (result : Except Error Machine.Report) : Nat × String :=
  let dump := if job.dumpRegisters then Value.dump registers.slots.toList ++ "\n" else ""
  match result with
  | .ok r => (0, dump ++ logText filter [.finished r.halt r.steps])
  | .error e => (1, dump ++ failureText e.message)

def run? (job : Job) (filter : LogFilter) (input : Input) (fuel : Nat) : Option Ending :=
  let keep (log : Array Event) (events : List Event) := log ++ events.filter filter.admits
  let r := (job.machine input).runKeeping Standard.terminal keep fuel #[]
  r.result.map fun result =>
    let (code, said) := job.conclude filter r.machine.core.registers result
    ⟨code, r.machine.world.sink.text, logText filter r.kept.toList ++ said⟩

end Job

def versionText : String := "rvm 0.1.0\n"

def helpText : Option CommandName → String
  | none =>
    "Register virtual machine\n\n" ++
    "Usage: rvm [OPTIONS] <COMMAND>\n\n" ++
    "Commands:\n" ++
    "  run    Execute a JSON program file\n" ++
    "  check  Report structural problems in a program file\n" ++
    "  demo   Run a bundled sample program\n" ++
    "  help   Print this message or the help of the given subcommand(s)\n\n" ++
    "Options:\n" ++
    "  -v, --verbose  Log call/return and halt events\n" ++
    "      --trace    Log every dispatched instruction\n" ++
    "  -h, --help     Print help\n" ++
    "  -V, --version  Print version\n"
  | some .run =>
    "Execute a JSON program file\n\n" ++
    "Usage: rvm run [OPTIONS] <FILE>\n\n" ++
    "Arguments:\n" ++
    "  <FILE>  Path to the program file\n\n" ++
    "Options:\n" ++
    "      --config <CONFIG>        TOML file with a [vm] section\n" ++
    "  -v, --verbose                Log call/return and halt events\n" ++
    "      --max-steps <MAX_STEPS>  Stop after this many instructions\n" ++
    "      --trace                  Log every dispatched instruction\n" ++
    "      --dump-registers         Print the register file as JSON after the run\n" ++
    "      --strict                 Refuse to start if the structural check reports anything\n" ++
    "  -h, --help                   Print help\n"
  | some .check =>
    "Report structural problems in a program file\n\n" ++
    "Usage: rvm check [OPTIONS] <FILE>\n\n" ++
    "Arguments:\n" ++
    "  <FILE>  Path to the program file\n\n" ++
    "Options:\n" ++
    "      --config <CONFIG>  TOML file with a [vm] section\n" ++
    "  -v, --verbose          Log call/return and halt events\n" ++
    "      --trace            Log every dispatched instruction\n" ++
    "  -h, --help             Print help\n"
  | some .demo =>
    "Run a bundled sample program\n\n" ++
    "Usage: rvm demo [OPTIONS] <NAME>\n\n" ++
    "Arguments:\n" ++
    "  <NAME>  arithmetic, sign, fib-loop or fib-call\n\n" ++
    "Options:\n" ++
    "  -v, --verbose  Log call/return and halt events\n" ++
    "      --trace    Log every dispatched instruction\n" ++
    "  -h, --help     Print help\n"

def Refusal.ending : Refusal → Ending
  | .usage => ⟨2, "", ""⟩
  | .help command => ⟨0, helpText command, ""⟩
  | .version => ⟨0, versionText, ""⟩

def overEnding (filter : LogFilter) (events : List Event) (stdout : String) :
    Option String → Ending
  | none => ⟨0, stdout, logText filter events⟩
  | some message => ⟨1, stdout, logText filter events ++ failureText message⟩

def Stage.ending? (filter : LogFilter) (input : Input) (fuel : Nat) : Stage → Option Ending
  | .over events stdout failure => some (overEnding filter events stdout failure)
  | .start events job =>
    (job.run? filter input fuel).map fun e =>
      { e with stderr := logText filter events ++ e.stderr }

/-- How a command line ends: its arguments, the files it finds, its standard input, and the log
setting of the environment. -/
def ending? (args : List String) (files : Files) (stdin : List UInt8) (setting : Option String)
    (fuel : Nat) : Option Ending :=
  match Invocation.ofArgs args with
  | .error refusal => some refusal.ending
  | .ok inv =>
    let filter := LogFilter.choose inv.verbose inv.trace setting
    (inv.command.stage files).ending? filter ⟨stdin⟩ fuel

end RegisterMachine.CommandLine
