import RegisterMachine.CommandLine.Arguments
import RegisterMachine.CommandLine.LogFilter
import RegisterMachine.CommandLine.Session
import RegisterMachine.CommandLine.Terminal
import RegisterMachine.Config
import RegisterMachine.Config.Toml
import RegisterMachine.Double
import RegisterMachine.Error
import RegisterMachine.Event
import RegisterMachine.Host.InputOutput
import RegisterMachine.Host.Standard
import RegisterMachine.Host.Table
import RegisterMachine.Instruction
import RegisterMachine.Json.Basic
import RegisterMachine.Json.Numeral
import RegisterMachine.Json.Printer
import RegisterMachine.Json.Reader
import RegisterMachine.Json.Token
import RegisterMachine.Machine.Basic
import RegisterMachine.Machine.Effect
import RegisterMachine.Machine.Fetch
import RegisterMachine.Machine.Handler
import RegisterMachine.Machine.Step
import RegisterMachine.Main
import RegisterMachine.Opcode
import RegisterMachine.Operand
import RegisterMachine.Program.Check
import RegisterMachine.Program.Printer
import RegisterMachine.Program.Reader
import RegisterMachine.Program.Samples
import RegisterMachine.Registers
import RegisterMachine.Stack
import RegisterMachine.Text.CharClass
import RegisterMachine.Text.Decimal
import RegisterMachine.Text.Quoted
import RegisterMachine.Toml.Basic
import RegisterMachine.Toml.Reader
import RegisterMachine.Toml.Scalar
import RegisterMachine.Value
import RegisterMachine.Value.Json
import RegisterMachine.Proofs.Resolve
import RegisterMachine.Proofs.Stacks
import RegisterMachine.Proofs.Handler
import RegisterMachine.Proofs.Step
import RegisterMachine.Proofs.Provenance
import RegisterMachine.Proofs.CheckSoundness
import RegisterMachine.Proofs.CheckCompleteness
import RegisterMachine.Proofs.CheckForecast
import RegisterMachine.Proofs.CheckMonotonicity
import RegisterMachine.Proofs.Fault
import RegisterMachine.Proofs.FrameIsolation
import RegisterMachine.Proofs.FrameConditions
import RegisterMachine.Proofs.CallStack
import RegisterMachine.Proofs.CallBracket
import RegisterMachine.Proofs.PushPop
import RegisterMachine.Proofs.ReturnAddress
import RegisterMachine.Proofs.Runs
import RegisterMachine.Proofs.Halting
import RegisterMachine.Proofs.Execution
import RegisterMachine.Proofs.Enlargement
import RegisterMachine.Proofs.Boundary
import RegisterMachine.Proofs.Fibonacci
import RegisterMachine.Proofs.FibonacciNumbers
import RegisterMachine.Proofs.StepLimit
import RegisterMachine.Proofs.Authenticity
import RegisterMachine.Proofs.HostHandles
import RegisterMachine.Proofs.Json.Numeral
import RegisterMachine.Proofs.Json.Scan
import RegisterMachine.Proofs.Json.Layout
import RegisterMachine.Proofs.Json.Read
import RegisterMachine.Proofs.Json.Skip
import RegisterMachine.Proofs.Json.Settling
import RegisterMachine.Proofs.Json.Truncation
import RegisterMachine.Proofs.Json.EndOfInput
import RegisterMachine.Proofs.Program.RoundTrip
import RegisterMachine.Proofs.Program.Construction
import RegisterMachine.Proofs.Program.Slots
import RegisterMachine.Proofs.Program.Spelling
import RegisterMachine.Proofs.Program.Wording
import RegisterMachine.Proofs.Program.Literals
import RegisterMachine.Proofs.Program.Integers
import RegisterMachine.Proofs.Program.Truncation
import RegisterMachine.Proofs.Input.Answer
import RegisterMachine.Proofs.Input.Console
import RegisterMachine.Proofs.Dump
import RegisterMachine.Proofs.StrictRun
