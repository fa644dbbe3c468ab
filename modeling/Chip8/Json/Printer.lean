import Chip8.Json

/-!
# Writing JSON

Two layouts.  The compact one has no white space at all.  The indented one puts
every item on a line of its own, two spaces deeper than its container, and a
space after the colon.  An empty container is written the same way in both.

Strings escape the quote, the backslash and the control characters below a
space.  A string with no text is written as one half of a surrogate pair.
-/

namespace Chip8.Json

/-- The four hexadecimal digits of an escape. -/
def escapeDigits (n : Nat) : List Char :=
  [n / 4096 % 16, n / 256 % 16, n / 16 % 16, n % 16].map Nat.digitChar

/-- A character inside a string. -/
def writeChar (c : Char) : List Char :=
  if c = '"' then ['\\', '"']
  else if c = '\\' then ['\\', '\\']
  else if c = '\n' then ['\\', 'n']
  else if c = '\r' then ['\\', 'r']
  else if c = '\t' then ['\\', 't']
  else if c = '\x08' then ['\\', 'b']
  else if c = '\x0c' then ['\\', 'f']
  else if c.toNat < 0x20 then '\\' :: 'u' :: escapeDigits c.toNat
  else [c]

/-- A string in quotes. -/
def writeString : Option String → List Char
  | some s => '"' :: s.toList.flatMap writeChar ++ ['"']
  | none => '"' :: '\\' :: 'u' :: escapeDigits 0xD800 ++ ['"']

/-- A value that holds no other. -/
def writeBool (b : Bool) : List Char := if b then "true".toList else "false".toList

/-! ## The compact layout -/

mutual

/-- A value with no white space. -/
def compactChars : Json → List Char
  | null => "null".toList
  | bool b => writeBool b
  | natural n => Nat.toDigits 10 n
  | number written => written
  | string text => writeString text
  | array items => '[' :: compactItems items ++ [']']
  | object members => '{' :: compactMembers members ++ ['}']

/-- Items between commas. -/
def compactItems : List Json → List Char
  | [] => []
  | [item] => compactChars item
  | item :: next :: rest => compactChars item ++ ',' :: compactItems (next :: rest)

/-- Members between commas. -/
def compactMembers : List (Option String × Json) → List Char
  | [] => []
  | [(key, value)] => writeString key ++ ':' :: compactChars value
  | (key, value) :: next :: rest =>
      writeString key ++ ':' :: compactChars value ++ ',' :: compactMembers (next :: rest)

end

/-- A value on one line. -/
def compact (v : Json) : String := .ofList (compactChars v)

/-! ## The indented layout -/

/-- A new line at a depth. -/
def newLine (depth : Nat) : List Char := '\n' :: List.replicate (2 * depth) ' '

mutual

/-- A value whose container stands at a depth. -/
def prettyChars (depth : Nat) : Json → List Char
  | null => "null".toList
  | bool b => writeBool b
  | natural n => Nat.toDigits 10 n
  | number written => written
  | string text => writeString text
  | array [] => ['[', ']']
  | array (item :: rest) =>
      '[' :: prettyItems (depth + 1) (item :: rest) ++ newLine depth ++ [']']
  | object [] => ['{', '}']
  | object (member :: rest) =>
      '{' :: prettyMembers (depth + 1) (member :: rest) ++ newLine depth ++ ['}']

/-- Items at a depth, each on its line. -/
def prettyItems (depth : Nat) : List Json → List Char
  | [] => []
  | [item] => newLine depth ++ prettyChars depth item
  | item :: next :: rest =>
      newLine depth ++ prettyChars depth item ++ ',' :: prettyItems depth (next :: rest)

/-- Members at a depth, each on its line. -/
def prettyMembers (depth : Nat) : List (Option String × Json) → List Char
  | [] => []
  | [(key, value)] => newLine depth ++ writeString key ++ ':' :: ' ' :: prettyChars depth value
  | (key, value) :: next :: rest =>
      newLine depth ++ writeString key ++ ':' :: ' ' :: prettyChars depth value ++
        ',' :: prettyMembers depth (next :: rest)

end

/-- A value on several lines. -/
def pretty (v : Json) : String := .ofList (prettyChars 0 v)

end Chip8.Json
