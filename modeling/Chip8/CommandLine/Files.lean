/-!
# Files

What a command needs of the files around it: to read one, and to create one anew.
Either can fail, for a reason the system gives.  A command is written for any
such surroundings, and a file system held in memory is one of them.

A path is a sequence of names, taken one after the other from the root or from
the current directory.  Each name but the last has to lead to a directory, and a
path that ends with a slash has to lead to one as well.  What is wrong with the
first name that cannot be taken is what is wrong with the path.
-/

namespace Chip8.CommandLine

/-- Why a file could not be read or created. -/
inductive FileError where
  /-- Nothing has that name. -/
  | missing
  /-- The name is that of a directory. -/
  | isDirectory
  /-- The name goes through a file as if it were a directory. -/
  | notDirectory
  /-- The path, or a name in it, is too long. -/
  | nameTooLong
  /-- The name is that of a device that is not there. -/
  | noDevice
  /-- The file is not text. -/
  | notText
  /-- Another reason. -/
  | other (reason : String)
deriving DecidableEq, Repr

/-- What a person is told about a file that failed. -/
def FileError.message : FileError → String
  | missing => "No such file or directory (os error 2)"
  | isDirectory => "Is a directory (os error 21)"
  | notDirectory => "Not a directory (os error 20)"
  | nameTooLong => "File name too long (os error 36)"
  | noDevice => "No such device or address (os error 6)"
  | notText => "stream did not contain valid UTF-8"
  | other reason => reason

/-- Surroundings with files. -/
class Files (m : Type → Type) where
  /-- The bytes of a file. -/
  read : String → m (Except FileError (List UInt8))
  /-- Create a file with nothing in it, in place of one that is there. -/
  create : String → m (Except FileError Unit)

/-- Bytes as text. -/
def decodeText (bytes : List UInt8) : Except FileError String :=
  match String.fromUTF8? ⟨bytes.toArray⟩ with
  | some text => .ok text
  | none => .error .notText

/-! ## Paths -/

/-- A path taken apart. -/
structure Path where
  /-- Whether it starts at the root. -/
  fromRoot : Bool
  /-- Its names. -/
  names : List String
  /-- Whether a slash ends it. -/
  endsInSlash : Bool
deriving DecidableEq, Repr

namespace Path

/-- The parts of a text between slashes, after a part that was begun, which is given backwards. -/
def parts (begun : List Char) : List Char → List (List Char)
  | [] => [begun.reverse]
  | c :: cs => if c = '/' then begun.reverse :: parts [] cs else parts (c :: begun) cs

/-- The path of a text.  Slashes in a row count once. -/
def ofString (text : String) : Path where
  fromRoot := text.toList.head? = some '/'
  names := ((parts [] text.toList).filter (· ≠ [])).map String.ofList
  endsInSlash := text.toList.getLast? = some '/'

/-- Whether a name stands for a directory relative to the one it is in. -/
def isDots (name : String) : Bool := name = "." || name = ".."

/-- The names to take to what is read.  A slash at the end asks for a directory, as a dot does. -/
def steps (p : Path) : List String := if p.endsInSlash then p.names ++ ["."] else p.names

/-- The names to take to the directory in which something is created. -/
def folderSteps (p : Path) : List String := p.names.dropLast ++ ["."]

end Path

/-- The name of the file a path leads to.  A path without one stands for itself. -/
def fileName (path : String) : String :=
  match ((Path.ofString path).names.filter (· ≠ ".")).getLast? with
  | none | some ".." => path
  | some name => name

/-! ## File systems -/

/-- A place of a file system: the names from the root to it, the last one first. -/
abbrev Place := List String

/-- What can be at a place. -/
inductive Entry where
  /-- A directory. -/
  | directory
  /-- A file with its bytes. -/
  | file (bytes : List UInt8)
  /-- A device that reads as nothing and takes whatever is written. -/
  | sink
  /-- The name of a device that is not there. -/
  | absentDevice
deriving DecidableEq, Repr

/-- A file system. -/
structure FileSystem where
  /-- What is where, the latest first.  The root need not be listed. -/
  entries : List (Place × Entry)
  /-- The directory where a path starts that does not start at the root. -/
  current : Place

namespace FileSystem

/-- The bytes a path has to stay below. -/
def pathLimit : Nat := 4096

/-- The most bytes a name has. -/
def nameLimit : Nat := 255

/-- What is at a place. -/
def find? (s : FileSystem) (p : Place) : Option Entry :=
  if p = [] then some .directory else List.lookup p s.entries

/-- The path of a text, unless there is none. -/
def path (text : String) : Except FileError Path :=
  if text.isEmpty then .error .missing
  else if pathLimit ≤ text.utf8ByteSize then .error .nameTooLong
  else .ok (.ofString text)

/-- The place a path starts from. -/
def start (s : FileSystem) (p : Path) : Place := if p.fromRoot then [] else s.current

/-- The place a name leads to.  The root is the directory above itself. -/
def step (s : FileSystem) (p : Place) (name : String) : Except FileError Place :=
  match s.find? p with
  | none => .error .missing
  | some .directory =>
      if name = "." then .ok p
      else if name = ".." then .ok p.tail
      else if nameLimit < name.utf8ByteSize then .error .nameTooLong
      else .ok (name :: p)
  | some _ => .error .notDirectory

/-- The place some names lead to. -/
def walk (s : FileSystem) (p : Place) : List String → Except FileError Place
  | [] => .ok p
  | name :: names =>
      match s.step p name with
      | .ok q => s.walk q names
      | .error e => .error e

/-- The bytes that are at a place. -/
def readAt (s : FileSystem) (p : Place) : Except FileError (List UInt8) :=
  match s.find? p with
  | some (.file bytes) => .ok bytes
  | some .sink => .ok []
  | some .directory => .error .isDirectory
  | some .absentDevice => .error .noDevice
  | none => .error .missing

/-- The bytes of the file a path leads to. -/
def read (s : FileSystem) (text : String) : Except FileError (List UInt8) := do
  let p ← path text
  s.readAt (← s.walk (s.start p) p.steps)

/-- The place at which a path asks for a file. -/
def newPlace (s : FileSystem) (p : Path) : Except FileError Place := do
  let folder ← s.walk (s.start p) p.folderSteps
  match p.names.getLast? with
  | some name =>
      if p.endsInSlash || Path.isDots name then throw .isDirectory else s.step folder name
  | none => throw .isDirectory

/-- The file system with an empty file at a place. -/
def createAt (s : FileSystem) (p : Place) : Except FileError FileSystem :=
  match s.find? p with
  | some .directory => .error .isDirectory
  | some .sink => .ok s
  | some .absentDevice => .error .noDevice
  | some (.file _) | none => .ok { s with entries := (p, .file []) :: s.entries }

/-- The file system with an empty file at a path. -/
def create (s : FileSystem) (text : String) : Except FileError FileSystem := do
  s.createAt (← s.newPlace (← path text))

/-- Directories that a system usually has. -/
def usualDirectories : List String :=
  ["/bin", "/boot", "/dev", "/dev/fd", "/dev/pts", "/dev/shm", "/etc", "/home", "/lib", "/lib64",
    "/media", "/mnt", "/opt", "/proc", "/root", "/run", "/sbin", "/srv", "/sys", "/tmp", "/usr",
    "/usr/bin", "/usr/include", "/usr/lib", "/usr/local", "/usr/local/bin", "/usr/local/lib",
    "/usr/sbin", "/usr/share", "/usr/src", "/var", "/var/cache", "/var/lib", "/var/log",
    "/var/tmp"]

/-- Devices that a system usually has and that take whatever is written. -/
def usualSinks : List String :=
  ["/dev/null", "/dev/full", "/dev/stdin", "/dev/stdout", "/dev/stderr", "/dev/fd/0", "/dev/fd/1",
    "/dev/fd/2"]

/-- A directory for temporary files.  Its name is empty, so that no path leads to it by name. -/
def temporary : Place := ["", "tmp"]

/-- The place of a path from the root. -/
def placeOf (text : String) : Place := (Path.ofString text).names.reverse

/-- A file system with the usual directories and devices.  The current directory has some files. -/
def withFiles (files : List (String × List UInt8)) : FileSystem where
  entries :=
    files.map (fun (name, bytes) => (name :: temporary, .file bytes)) ++
      (temporary, .directory) :: (placeOf "/dev/tty", .absentDevice) ::
      usualSinks.map (fun text => (placeOf text, .sink)) ++
      usualDirectories.map (fun text => (placeOf text, .directory))
  current := temporary

example : (withFiles [("a", [1])]).read ".//./a" = .ok [1] := rfl
example : (withFiles [("a", [1])]).read "../work/a" = .error .missing := rfl
example : (withFiles [("a", [1])]).read "a/.." = .error .notDirectory := rfl
example : (withFiles [("a", [1])]).read "b/.." = .error .missing := rfl
example : (withFiles []).read "../../.." = .error .isDirectory := rfl
example : ((withFiles []).create "b/").toOption.isNone = true := by decide +kernel

end FileSystem

instance : Files (StateM FileSystem) where
  read path := do return (← get).read path
  create path := do
    match (← get).create path with
    | .error e => return .error e
    | .ok s => do
        set s
        return .ok ()

end Chip8.CommandLine
