import Chip8.CommandLine.Files
import Chip8.CommandLine.Help
import Chip8.Config
import Chip8.Fault

/-!
# Reports

What a command leaves: a text for the reader, a text about what went wrong, and a
code for the caller.  The code is 0 when all went well, 1 when the command could
not do what it was asked for, 2 when the command line was wrong, and 101 when it
broke off.
-/

namespace Chip8.CommandLine

/-- Why a command could not do what it was asked for. -/
inductive Failure where
  /-- The log could not be created. -/
  | logFile (e : FileError)
  /-- The file of settings was refused. -/
  | config (e : ConfigError)
  /-- No dialect has the name. -/
  | unknownDialect (name : String)
  /-- The settings are not valid when the options are put in. -/
  | settings (e : ConfigError)
  /-- The program file could not be read. -/
  | programFile (e : FileError)
  /-- The program has no bytes. -/
  | emptyProgram
  /-- No machine can be built for the program. -/
  | program (f : Fault)
  /-- No player can be built for the program. -/
  | player (f : Fault)
  /-- There is no terminal to play in. -/
  | noTerminal
  /-- A tick failed, and the program counter stands at an address. -/
  | stopped (pc : UInt16) (f : Fault)
deriving DecidableEq, Repr

namespace Failure

/-- What a command was about when it failed. -/
def context : Failure → String
  | logFile _ => "Failed to open log file"
  | config _ => "Failed to load config"
  | unknownDialect _ => "Unknown quirk preset"
  | settings _ => "Invalid settings"
  | programFile _ | emptyProgram => "Failed to read ROM"
  | program _ => "Failed to load program"
  | player _ | noTerminal => "Player error"
  | stopped pc _ => "Stopped at PC=" ++ Numeral.hex 3 pc.toNat

/-- Why a command failed. -/
def cause : Failure → String
  | logFile e => e.message
  | config e | settings e => e.message
  | unknownDialect name => name
  | programFile e => (ConfigError.unreadable e.message).message
  | emptyProgram => "file is empty"
  | program f | player f | stopped _ f => f.message
  | noTerminal => FileError.noDevice.message

/-- What a person is told about a failed command. -/
def message (f : Failure) : String := "❌ " ++ f.context ++ ": " ++ f.cause

end Failure

/-- What a command leaves. -/
structure Report where
  /-- The code for the caller. -/
  code : UInt32 := 0
  /-- The text for the reader. -/
  stdout : String := ""
  /-- The text about what went wrong. -/
  stderr : String := ""
deriving DecidableEq, Repr

/-- Lines as a text. -/
def unlines (lines : List String) : String := .join (lines.map (· ++ "\n"))

namespace Report

/-- The report of some lines. -/
def ofLines (lines : List String) : Report := { stdout := unlines lines }

/-- The report of a failure. -/
def ofFailure (f : Failure) : Report := { code := 1, stderr := unlines [f.message] }

/-- The report of a command that broke off. -/
def crashed : Report := { code := 101 }

/-- The report on a wrong command line. -/
def misused : Report where
  code := 2
  stderr := unlines
    ["error: wrong arguments", "", "Usage: " ++ Topic.usage .program, "",
      "For more information, try '--help'."]

/-- The introduction. -/
def introduction : Report :=
  ofLines ["CHIP-8 VM v" ++ programVersion, "", "Use --help for available commands"]

/-- The version. -/
def version : Report := ofLines [programName ++ " " ++ programVersion]

/-- The help on a topic. -/
def help (topic : Topic) : Report := ofLines topic.helpLines

end Report

end Chip8.CommandLine
