import Chip8.CommandLine.Arguments

/-!
# Invocations

What a command line asks for.  There are three commands, *play*, *run* and
*info*, each for one program file.  Playing and running share the settings of the
machine.  Without any argument the program introduces itself.
-/

namespace Chip8.CommandLine

/-- The settings of a machine that are given as options. -/
structure Settings where
  /-- The file of settings. -/
  config : Option String := none
  /-- Instructions in a second. -/
  rate : Option Nat := none
  /-- Milliseconds between ticks. -/
  interval : Option Nat := none
  /-- The name of a dialect. -/
  dialect : Option String := none
deriving DecidableEq, Repr

/-- The parts of the program that have a help text. -/
inductive Topic where
  /-- The program itself. -/
  | program
  /-- Playing. -/
  | play
  /-- Running. -/
  | run
  /-- A program file. -/
  | info
  /-- Help itself. -/
  | help
deriving DecidableEq, Repr

/-- What a command line asks for. -/
inductive Invocation where
  /-- An introduction. -/
  | introduce
  /-- The version. -/
  | version
  /-- Help on a topic. -/
  | help (topic : Topic)
  /-- Play a program in the terminal. -/
  | play (program : String) (settings : Settings) (logFile : Option String)
  /-- Run a program for a number of ticks. -/
  | run (program : String) (settings : Settings) (ticks : Nat) (trace : Bool)
  /-- Tell about a program file. -/
  | info (program : String)
deriving DecidableEq, Repr

namespace Invocation

/-- A value that is any text. -/
def anyText (_ : String) : Bool := true

/-- A 32-bit number, read with its sign. -/
def rate? (s : String) : Option Nat := number? true UInt32.size s

/-- A 64-bit number. -/
def count? (s : String) : Option Nat := number? false UInt64.size s

/-- The options of the machine's settings. -/
def settingSpecs : List OptionSpec :=
  [{ long := "config", short := some 'c', accepts := some anyText, about := "JSON config file" },
    { long := "hz", accepts := some fun s => (rate? s).isSome
      about := "Instructions per second" },
    { long := "interval", accepts := some fun s => (count? s).isSome
      about := "Scheduler tick interval in milliseconds" },
    { long := "quirks", accepts := some anyText
      about := "Quirk preset: literal or canonical" }]

/-- The options of playing. -/
def playSpecs : List OptionSpec :=
  settingSpecs ++
    [{ long := "log-file", accepts := some anyText
       about := "Write logs here instead of discarding them" }]

/-- The ticks of a run that does not say how many. -/
def defaultTicks : Nat := 10

/-- The options of running. -/
def runSpecs : List OptionSpec :=
  settingSpecs ++
    [{ long := "ticks", short := some 't', accepts := some fun s => (count? s).isSome
       fallback := some (toString defaultTicks)
       about := "Number of ticks to run (default: 10)" },
      { long := "trace", about := "Print every executed instruction as a JSON line" }]

/-- The settings among the arguments. -/
def settings (a : Arguments) : Settings where
  config := a.value? "config"
  rate := (a.value? "hz").bind rate?
  interval := (a.value? "interval").bind count?
  dialect := a.value? "quirks"

/-- The invocation of a command with its arguments, none when they are wrong. -/
def ofArguments? (topic : Topic) (specs : List OptionSpec)
    (make : (program : String) → Arguments → Invocation) (arguments : List String) :
    Option Invocation :=
  match takeArguments specs 1 {} arguments with
  | .ok a => a.operands.head?.map fun program => make program a
  | .help => some (help topic)
  | .wrong => none

/-- Whether an argument asks for something before any command does: help or the version. -/
def ofFlag? (argument : String) : Option Invocation :=
  match Form.ofArgument argument with
  | .long "help" none => some (help .program)
  | .long "version" none => some version
  | .short 'h' _ => some (help .program)
  | .short 'V' _ => some version
  | _ => none

/-- What a command line asks for, none when it is wrong. -/
def ofCommandLine? : List String → Option Invocation
  | [] | ["--"] => some introduce
  | "play" :: rest =>
      ofArguments? .play playSpecs (fun p a => play p (settings a) (a.value? "log-file")) rest
  | "run" :: rest =>
      ofArguments? .run runSpecs
        (fun p a =>
          let ticks := ((a.value? "ticks").bind count?).getD defaultTicks
          run p (settings a) ticks (a.has "trace"))
        rest
  | "info" :: rest => ofArguments? .info [] (fun p _ => info p) rest
  | ["help"] => some (help .program)
  | ["help", "play"] => some (help .play)
  | ["help", "run"] => some (help .run)
  | ["help", "info"] => some (help .info)
  | ["help", "help"] => some (help .help)
  | argument :: _ => ofFlag? argument

end Invocation

end Chip8.CommandLine
