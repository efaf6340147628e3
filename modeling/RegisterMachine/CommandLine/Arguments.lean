import RegisterMachine.Text.Decimal

/-!
# Arguments of the command line

`rvm [-v] [--trace] run|check|demo ...`. The two switches may stand in front of the command as well
as behind it, but only once on each side. An option takes its value behind an equals sign or from
the next argument, which must not look like an option; two hyphens end the options. Arguments are
taken from the left, and the first that does not fit refuses them all; a request for help or for
the version is granted as soon as it is met.
-/

namespace RegisterMachine.CommandLine

inductive Command
  | run (file : String) (config : Option String) (maxSteps : Option Nat)
      (dumpRegisters strict : Bool)
  | check (file : String) (config : Option String)
  | demo (name : String)
  deriving DecidableEq, Repr

structure Invocation where
  verbose : Bool
  trace : Bool
  command : Command
  deriving DecidableEq, Repr

inductive CommandName
  | run
  | check
  | demo
  deriving DecidableEq, Repr

def CommandName.ofWord? (word : String) : Option CommandName :=
  if word = "run" then some .run
  else if word = "check" then some .check
  else if word = "demo" then some .demo
  else none

/-- Why arguments make no invocation: they are refused, or ask for something to be shown. -/
inductive Refusal
  | usage
  | help (command : Option CommandName)
  | version
  deriving DecidableEq, Repr

inductive Switch
  | verbose
  | trace
  | help
  | version
  | dumpRegisters
  | strict
  deriving DecidableEq, Repr

inductive Setting
  | config
  | maxSteps
  deriving DecidableEq, Repr

/-- What may stand on one side of the command: switches by name and by letter, options, and so many
values. -/
structure Side where
  switches : List (String × Switch)
  letters : List (Char × Switch)
  options : List (String × Setting)
  places : Nat

def front : Side where
  switches := [("verbose", .verbose), ("trace", .trace), ("help", .help), ("version", .version)]
  letters := [('v', .verbose), ('h', .help), ('V', .version)]
  options := []
  places := 0

def CommandName.back : CommandName → Side
  | .run => {
      switches := [("verbose", .verbose), ("trace", .trace), ("help", .help),
        ("dump-registers", .dumpRegisters), ("strict", .strict)]
      letters := [('v', .verbose), ('h', .help)]
      options := [("config", .config), ("max-steps", .maxSteps)]
      places := 1 }
  | .check => {
      switches := [("verbose", .verbose), ("trace", .trace), ("help", .help)]
      letters := [('v', .verbose), ('h', .help)]
      options := [("config", .config)]
      places := 1 }
  | .demo => {
      switches := [("verbose", .verbose), ("trace", .trace), ("help", .help)]
      letters := [('v', .verbose), ('h', .help)]
      options := []
      places := 1 }

/-- What has been met on one side of the command. The sides are accounted for apart, since a switch
may stand once on each. -/
structure Found where
  switches : List Switch := []
  options : List (Setting × String) := []
  values : List String := []
  deriving DecidableEq, Repr

/-- An argument by its form, before it is known whether there is such a switch or option. -/
inductive Form
  | value
  | escape
  | long (name : String) (value : Option String)
  | short (letters : List Char)
  deriving DecidableEq, Repr

/-- The form of an argument. A hyphen alone is a value. -/
def form (arg : String) : Form :=
  match arg.toList with
  | ['-', '-'] => .escape
  | '-' :: '-' :: cs =>
    let name := cs.takeWhile (· ≠ '=')
    match cs.dropWhile (· ≠ '=') with
    | [] => .long (String.ofList name) none
    | _ :: value => .long (String.ofList name) (some (String.ofList value))
  | '-' :: c :: cs => .short (c :: cs)
  | _ => .value

/-- Notes a switch, which must be new; help and version are granted at once. -/
def Found.switch (command : Option CommandName) (f : Found) (s : Switch) :
    Except Refusal Found :=
  match s with
  | .help => .error (.help command)
  | .version => .error .version
  | s =>
    if s ∈ f.switches then .error .usage else .ok { f with switches := f.switches ++ [s] }

def Found.cluster (command : Option CommandName) (side : Side) (f : Found) :
    List Char → Except Refusal Found
  | [] => .ok f
  | c :: cs =>
    match side.letters.lookup c with
    | some s => do
      let f ← f.switch command s
      f.cluster command side cs
    | none => .error .usage

def Setting.admits (value : String) : Setting → Bool
  | .config => !value.isEmpty
  | .maxSteps => (Text.readWord? value.toList).isSome

def Found.option (f : Found) (o : Setting) (value : String) : Except Refusal Found :=
  if (f.options.lookup o).isSome || !o.admits value then .error .usage
  else .ok { f with options := f.options ++ [(o, value)] }

/-- Whether a value is one for the command: a path must not be empty, a name may be. -/
def CommandName.admits (value : String) : CommandName → Bool
  | .run => !value.isEmpty
  | .check => !value.isEmpty
  | .demo => true

def Found.value (command : CommandName) (f : Found) (v : String) : Except Refusal Found :=
  if f.values.length < command.back.places && command.admits v then
    .ok { f with values := f.values ++ [v] }
  else .error .usage

def scanBack (command : CommandName) : Found → List String → Except Refusal Found
  | f, [] => .ok f
  | f, arg :: args =>
    match form arg with
    | .escape => args.foldlM (Found.value command) f
    | .value => do
      let f ← f.value command arg
      scanBack command f args
    | .short letters => do
      let f ← f.cluster (some command) command.back letters
      scanBack command f args
    | .long name attached =>
      match command.back.switches.lookup name, command.back.options.lookup name with
      | some s, _ =>
        match attached with
        | some _ => .error .usage
        | none => do
          let f ← f.switch (some command) s
          scanBack command f args
      | none, some o =>
        match attached, args with
        | some v, args => do
          let f ← f.option o v
          scanBack command f args
        | none, v :: args =>
          match form v with
          | .value => do
            let f ← f.option o v
            scanBack command f args
          | _ => .error .usage
        | none, [] => .error .usage
      | none, none => .error .usage

def scanFront : Found → List String → Except Refusal (Found × CommandName × List String)
  | _, [] => .error .usage
  | f, arg :: args =>
    match form arg with
    | .escape => .error .usage
    | .value =>
      match CommandName.ofWord? arg with
      | some name => .ok (f, name, args)
      | none =>
        if arg = "help" then
          match args with
          | [] => .error (.help none)
          | [word] =>
            match CommandName.ofWord? word with
            | some name => .error (.help (some name))
            | none => .error (if word = "help" then .help none else .usage)
          | _ => .error .usage
        else .error .usage
    | .short letters => do
      let f ← f.cluster none front letters
      scanFront f args
    | .long name attached =>
      match front.switches.lookup name, attached with
      | some s, none => do
        let f ← f.switch none s
        scanFront f args
      | _, _ => .error .usage

def CommandName.command (name : CommandName) (f : Found) : Except Refusal Command :=
  match name, f.values with
  | .run, [file] =>
    let steps := (f.options.lookup .maxSteps).bind fun s =>
      (Text.readWord? s.toList).map UInt64.toNat
    .ok (.run file (f.options.lookup .config) steps (.dumpRegisters ∈ f.switches)
      (.strict ∈ f.switches))
  | .check, [file] => .ok (.check file (f.options.lookup .config))
  | .demo, [name] => .ok (.demo name)
  | _, _ => .error .usage

def Invocation.ofArgs (args : List String) : Except Refusal Invocation := do
  let (f, name, rest) ← scanFront {} args
  let b ← scanBack name {} rest
  let c ← name.command b
  .ok ⟨.verbose ∈ f.switches ++ b.switches, .trace ∈ f.switches ++ b.switches, c⟩

end RegisterMachine.CommandLine
