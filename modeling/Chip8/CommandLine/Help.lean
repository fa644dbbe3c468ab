import Chip8.CommandLine.Invocation

/-!
# Help

The help text of the program and of each command: what it is for, how it is
called, and a table of what it takes.  The tables are written from the options the
arguments are read by, so that no option goes without a line.
-/

namespace Chip8.CommandLine

/-- The name of the program. -/
def programName : String := "chip8-vm"

/-- The version of the program. -/
def programVersion : String := "0.1.0"

/-- The name a help text gives to a value, after the option that takes it. -/
def valueName (long : String) : String :=
  .ofList (long.toList.map fun c => if c = '-' then '_' else c.toUpper)

namespace OptionSpec

/-- How an option is written. -/
def form (o : OptionSpec) : String :=
  let letter := match o.short with
    | some c => String.ofList ['-', c, ',', ' ']
    | none => "    "
  let value := if o.accepts.isSome then " <" ++ valueName o.long ++ ">" else ""
  letter ++ "--" ++ o.long ++ value

/-- What an option is for, with the value it has when it is left out. -/
def summary (o : OptionSpec) : String :=
  match o.fallback with
  | some value => o.about ++ " [default: " ++ value ++ "]"
  | none => o.about

end OptionSpec

/-- The lines of a table with two columns. -/
def tableLines (rows : List (String × String)) : List String :=
  let width := rows.foldl (fun w row => max w row.1.length) 0
  rows.map fun (left, right) =>
    "  " ++ left ++ String.ofList (List.replicate (width - left.length) ' ') ++ "  " ++ right

/-- A section of a help text, with a blank line before it. -/
def sectionLines (title : String) (rows : List (String × String)) : List String :=
  if rows.isEmpty then [] else ["", title ++ ":"] ++ tableLines rows

namespace Topic

/-- The commands in the order they are listed. -/
def commands : List Topic := [play, run, info, help]

/-- The word that stands for a command. -/
def word : Topic → String
  | program => programName
  | play => "play"
  | run => "run"
  | info => "info"
  | help => "help"

/-- What a topic is about. -/
def about : Topic → String
  | program => "A CHIP-8 virtual machine with a drift-correcting scheduler"
  | play => "Play a ROM in the terminal"
  | run => "Run a ROM headless for a number of scheduler ticks"
  | info => "Show ROM size and free program space"
  | help => "Print this message or the help of the given subcommand(s)"

/-- The options of a topic. -/
def specs : Topic → List OptionSpec
  | play => Invocation.playSpecs
  | run => Invocation.runSpecs
  | program | info | help => []

/-- How a topic is called. -/
def usage (t : Topic) : String :=
  let options := if t.specs.isEmpty then "" else " [OPTIONS]"
  match t with
  | program => programName ++ " [COMMAND]"
  | play | run | info => programName ++ " " ++ t.word ++ options ++ " <ROM>"
  | help => programName ++ " " ++ t.word ++ " [COMMAND]..."

/-- The commands a topic lists. -/
def commandRows : Topic → List (String × String)
  | program => commands.map fun t => (t.word, t.about)
  | _ => []

/-- The operands a topic lists. -/
def operandRows : Topic → List (String × String)
  | program => []
  | play | run | info => [("<ROM>", "Path to the ROM image")]
  | help => [("[COMMAND]...", "Print help for the subcommand(s)")]

/-- The options a topic lists.  Help takes none. -/
def optionRows (t : Topic) : List (String × String) :=
  let own := t.specs.map fun o => (o.form, o.summary)
  match t with
  | program => own ++ [("-h, --help", "Print help"), ("-V, --version", "Print version")]
  | play | run | info => own ++ [("-h, --help", "Print help")]
  | help => own

/-- The help text of a topic, line by line. -/
def helpLines (t : Topic) : List String :=
  [t.about, "", "Usage: " ++ t.usage] ++ sectionLines "Commands" t.commandRows ++
    sectionLines "Arguments" t.operandRows ++ sectionLines "Options" t.optionRows

end Topic

example : Topic.helpLines .program =
    ["A CHIP-8 virtual machine with a drift-correcting scheduler", "",
      "Usage: chip8-vm [COMMAND]", "",
      "Commands:",
      "  play  Play a ROM in the terminal",
      "  run   Run a ROM headless for a number of scheduler ticks",
      "  info  Show ROM size and free program space",
      "  help  Print this message or the help of the given subcommand(s)", "",
      "Options:",
      "  -h, --help     Print help",
      "  -V, --version  Print version"] := by
  decide

example : Topic.helpLines .help =
    ["Print this message or the help of the given subcommand(s)", "",
      "Usage: chip8-vm help [COMMAND]...", "",
      "Arguments:",
      "  [COMMAND]...  Print help for the subcommand(s)"] := by
  decide

end Chip8.CommandLine
