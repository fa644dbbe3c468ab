import Chip8.CommandLine.Headless
import Chip8.Player

/-!
# Execution

What each invocation does.  A command goes step by step and ends with the first
step that fails.

1. The log is created.  Only playing has one.
2. The file of settings is read, and the settings in it are validated.
3. The options take the place of settings: the rate, the interval, the dialect.
4. The settings are validated again.
5. The program is read.
6. The machine is built and runs.

The settings of a file are valid by themselves, so an option cannot mend them.
Playing goes as far as building the player, for there is no terminal to play in.
-/

namespace Chip8.CommandLine

variable {m : Type → Type} [Monad m] [Files m]

/-- What an attempt gives, or else a failure. -/
def orFailure {ε α : Type} (failure : ε → Failure) : Except ε α → ExceptT Failure m α
  | .ok a => pure a
  | .error e => throw (failure e)

/-- What the surroundings answer, or else a failure. -/
def orFileFailure {α : Type} (failure : FileError → Failure) (answer : m (Except FileError α)) :
    ExceptT Failure m α := do
  orFailure failure (← ExceptT.lift answer)

/-- What is made of the result of building something, or else a failure.  Where the building broke
off, so does the command. -/
def orStop {α : Type} (failure : Fault → Failure) (built : Except Stop α)
    (next : α → ExceptT Failure m Report) : ExceptT Failure m Report :=
  match built with
  | .ok a => next a
  | .error (.fault f) => throw (failure f)
  | .error .crash => return .crashed

/-- Some settings with the options in their place, once they are valid. -/
def Settings.apply (s : Settings) (c : Config) : Except Failure Config := do
  let rate := s.rate.elim c.instructionsPerSecond .ofNat
  let interval := s.interval.elim c.tickIntervalMs .ofNat
  let dialect ← match s.dialect with
    | none => pure c.dialect
    | some name =>
        match Dialect.preset? name with
        | some dialect => pure dialect
        | none => throw (.unknownDialect name)
  let c := { c with instructionsPerSecond := rate, tickIntervalMs := interval, dialect }
  match c.validate with
  | .ok () => return c
  | .error e => throw (.settings e)

/-- The settings of a file. -/
def readConfig (path : String) : ExceptT Failure m Config := do
  let bytes ← orFileFailure (fun e => .config (.unreadable e.message)) (Files.read path)
  let text ← orFailure (fun e => .config (.unreadable e.message)) (decodeText bytes)
  orFailure .config (Config.read text)

/-- The settings of a command, without a file the usual ones with the options put in. -/
def resolve (s : Settings) : ExceptT Failure m Config := do
  let c ← match s.config with
    | none => pure {}
    | some path => readConfig path
  orFailure id (s.apply c)

/-- The bytes of a program. -/
def readProgram (path : String) : ExceptT Failure m (List UInt8) := do
  let program ← orFileFailure .programFile (Files.read path)
  if program.isEmpty then throw .emptyProgram else return program

/-- The lines on a program file. -/
def infoLines (path : String) (size : Nat) : List String :=
  let space := Memory.programSpace
  ["📂 " ++ path,
    "Size: " ++ toString size ++ " bytes (" ++ toString (space - size) ++ " free of "
      ++ toString space ++ ")"] ++
    (if space < size then ["⚠️  Too large to load"] else []) ++
    (if size % 2 = 0 then [] else ["⚠️  Odd length, the last instruction is incomplete"])

namespace Invocation

/-- What an invocation leaves, unless it fails.  The seed is for the machine's random numbers. -/
def attempt (seed : UInt64) : Invocation → ExceptT Failure m Report
  | introduce => return .introduction
  | version => return .version
  | help topic => return .help topic
  | play path settings logFile => do
      if let some log := logFile then
        orFileFailure .logFile (Files.create log)
      let config ← resolve settings
      let program ← readProgram path
      orStop .player (Player.new? program config (fileName path) seed) fun _ => throw .noTerminal
  | run path settings ticks trace => do
      let config ← resolve settings
      let program ← readProgram path
      orStop .program (Headless.ofConfig? program config seed) fun h =>
        return (h.run ticks).report trace
  | info path => do
      let program ← readProgram path
      return .ofLines (infoLines path program.length)

/-- What an invocation leaves. -/
def execute (seed : UInt64) (i : Invocation) : m Report := do
  match ← (i.attempt seed : ExceptT Failure m Report).run with
  | .ok report => return report
  | .error f => return .ofFailure f

end Invocation

/-- What a command line leaves. -/
def execute (seed : UInt64) (arguments : List String) : m Report :=
  match Invocation.ofCommandLine? arguments with
  | some i => i.execute seed
  | none => return .misused

/-- What a command line leaves in a file system held in memory, and the file system afterwards. -/
def executeIn (s : FileSystem) (seed : UInt64) (arguments : List String) : Report × FileSystem :=
  (execute seed arguments : StateM FileSystem Report).run s

end Chip8.CommandLine
