import Chip8.CommandLine.Execution

/-!
# The program

The command line on the files of the system.
-/

namespace Chip8.CommandLine

/-- Why the system could not read or create a file. -/
def FileError.ofSystem : IO.Error → FileError
  | .noFileOrDirectory .. => .missing
  | .inappropriateType _ 20 _ => .notDirectory
  | .inappropriateType .. => .isDirectory
  | .invalidArgument _ 36 _ => .nameTooLong
  | .noSuchThing _ 6 _ => .noDevice
  | e => .other (toString e)

instance : Files IO where
  read path := do
    try return .ok (← IO.FS.withFile path .read (·.readBinToEnd)).toList
    catch e => return .error (.ofSystem e)
  create path := do
    try
      IO.FS.writeBinFile path .empty
      return .ok ()
    catch e => return .error (.ofSystem e)

end Chip8.CommandLine

/-- Execute a command line. -/
def main (arguments : List String) : IO UInt32 := do
  let seed ← IO.rand 0 (UInt64.size - 1)
  let report ← Chip8.CommandLine.execute (.ofNat seed) arguments
  IO.print report.stdout
  IO.eprint report.stderr
  return report.code
