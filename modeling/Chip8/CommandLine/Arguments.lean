/-!
# Arguments

The arguments of a command: options and operands in any order.  An option has a
long name, written after two hyphens, and may have a letter, written after one.
An option may take a value.

* A value follows as the next argument or in the same one, after an equals sign
  or directly after the letter.
* A next argument that starts with a hyphen is no value, unless it is a lone
  hyphen.
* Letters may be run together, and the first that takes a value takes the rest.
* Two hyphens alone end the options, and everything after them is an operand.
* An option is given once at most.
* `--help` and `-h` ask for help wherever an option can stand.

Arguments are read from left to right, and the first that is wrong or asks for
help decides what becomes of the command.
-/

namespace Chip8.CommandLine

/-- An option of a command. -/
structure OptionSpec where
  /-- The name after two hyphens. -/
  long : String
  /-- The letter after one hyphen. -/
  short : Option Char := none
  /-- The values it takes, none when it takes no value. -/
  accepts : Option (String → Bool) := none
  /-- The value of an option that is left out, when there is one. -/
  fallback : Option String := none
  /-- What the option is for. -/
  about : String

/-- What a command is given. -/
structure Arguments where
  /-- The options by their long names, with their values, last first. -/
  options : List (String × String) := []
  /-- The operands, last first. -/
  operands : List String := []
deriving DecidableEq, Repr

/-- How the arguments of a command are taken. -/
inductive Taken where
  /-- They are in order. -/
  | ok (arguments : Arguments)
  /-- They ask for help. -/
  | help
  /-- Something is wrong with them. -/
  | wrong
deriving DecidableEq, Repr

namespace Arguments

/-- The value of an option, if it was given. -/
def value? (a : Arguments) (long : String) : Option String := List.lookup long a.options

/-- Whether an option was given. -/
def has (a : Arguments) (long : String) : Bool := (a.value? long).isSome

/-- The arguments with another option, unless it was given before or does not take the value. -/
def addOption? (a : Arguments) (spec : OptionSpec) (value : String) : Option Arguments :=
  if a.has spec.long then none
  else
    match spec.accepts with
    | some accepts =>
        if accepts value then some { a with options := (spec.long, value) :: a.options } else none
    | none => some { a with options := (spec.long, value) :: a.options }

/-- The arguments with more operands, unless there are too many. -/
def addOperands? (a : Arguments) (most : Nat) (operands : List String) : Option Arguments :=
  if a.operands.length + operands.length ≤ most then
    some { a with operands := operands.reverse ++ a.operands }
  else none

end Arguments

/-! ## The forms of an argument -/

/-- An argument by its form. -/
inductive Form where
  /-- Two hyphens alone. -/
  | endOfOptions
  /-- A long option, with the value written in the same argument. -/
  | long (name : String) (value : Option String)
  /-- A letter and what is written after it. -/
  | short (letter : Char) (rest : List Char)
  /-- An operand. -/
  | operand
deriving DecidableEq, Repr

/-- The name and the value of a long option. -/
def splitLong (cs : List Char) : Form :=
  let name := String.ofList (cs.takeWhile (· ≠ '='))
  match cs.dropWhile (· ≠ '=') with
  | [] => .long name none
  | _ :: value => .long name (some (.ofList value))

/-- The form of an argument. -/
def Form.ofArgument (argument : String) : Form :=
  match argument.toList with
  | ['-', '-'] => .endOfOptions
  | '-' :: '-' :: cs => splitLong cs
  | '-' :: c :: cs => .short c cs
  | _ => .operand

/-- Whether an argument can be the value of the option before it. -/
def Form.isValue (argument : String) : Bool := Form.ofArgument argument = .operand

/-! ## Taking arguments -/

/-- What a run of letters asks for. -/
inductive Letters where
  /-- Options without a value, all of them in order. -/
  | done (arguments : Arguments)
  /-- An option whose value is the next argument. -/
  | needsValue (arguments : Arguments) (spec : OptionSpec)
  /-- Help. -/
  | help
  /-- Something that is wrong. -/
  | wrong

/-- A run of letters. -/
def takeLetters (specs : List OptionSpec) (a : Arguments) : List Char → Letters
  | [] => .done a
  | c :: rest =>
      if c = 'h' then .help
      else
        match specs.find? (·.short = some c) with
        | none => .wrong
        | some spec =>
            if spec.accepts.isSome then
              match rest with
              | [] => .needsValue a spec
              | first :: more =>
                  let value := String.ofList (if first = '=' then more else rest)
                  match a.addOption? spec value with
                  | some a => .done a
                  | none => .wrong
            else
              match a.addOption? spec "" with
              | some a => takeLetters specs a rest
              | none => .wrong

/-- The arguments of a command with some options and at most some number of operands. -/
def takeArguments (specs : List OptionSpec) (most : Nat) (a : Arguments) : List String → Taken
  | [] => .ok a
  | argument :: rest =>
      match Form.ofArgument argument with
      | .endOfOptions =>
          match a.addOperands? most rest with
          | some a => .ok a
          | none => .wrong
      | .operand =>
          match a.addOperands? most [argument] with
          | some a => takeArguments specs most a rest
          | none => .wrong
      | .long name value =>
          if name = "help" then if value.isSome then .wrong else .help
          else
            match specs.find? (·.long = name) with
            | none => .wrong
            | some spec =>
                match spec.accepts.isSome, value, rest with
                | true, some value, rest =>
                    match a.addOption? spec value with
                    | some a => takeArguments specs most a rest
                    | none => .wrong
                | true, none, value :: rest =>
                    if Form.isValue value then
                      match a.addOption? spec value with
                      | some a => takeArguments specs most a rest
                      | none => .wrong
                    else .wrong
                | true, none, [] => .wrong
                | false, none, rest =>
                    match a.addOption? spec "" with
                    | some a => takeArguments specs most a rest
                    | none => .wrong
                | false, some _, _ => .wrong
      | .short letter letters =>
          match takeLetters specs a (letter :: letters), rest with
          | .done a, rest => takeArguments specs most a rest
          | .needsValue a spec, value :: rest =>
              if Form.isValue value then
                match a.addOption? spec value with
                | some a => takeArguments specs most a rest
                | none => .wrong
              else .wrong
          | .needsValue _ _, [] => .wrong
          | .help, _ => .help
          | .wrong, _ => .wrong

/-! ## Numbers -/

/-- A run of digits as a number. -/
def digits? (cs : List Char) : Option Nat :=
  if cs.isEmpty || !cs.all Char.isDigit then none else some (Nat.ofDigitChars 10 cs 0)

/-- A number below a bound, with an optional plus sign.  A number that is read with its sign may
also be written as minus zero. -/
def number? (signed : Bool) (bound : Nat) (s : String) : Option Nat := do
  let n ← match s.toList with
    | '+' :: cs => digits? cs
    | '-' :: cs => do
        let n ← digits? cs
        if signed ∧ n = 0 then some 0 else none
    | cs => digits? cs
  if n < bound then some n else none

example : number? false 256 "+7" = some 7 := by decide
example : number? false 256 "256" = none := by decide
example : number? true 256 "-0" = some 0 := by decide

end Chip8.CommandLine
