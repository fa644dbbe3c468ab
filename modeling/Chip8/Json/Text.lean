/-!
# Text from escapes

A string is written as characters and as escapes of four hexadecimal digits.  An
escape names a 16-bit unit.  Most units are characters, and two units of a
surrogate pair, the high one directly before the low one, are one character
together.  Any other surrogate stands for nothing, and neither does the string
it is in.
-/

namespace Chip8.Json

/-- A piece of a written string. -/
inductive Piece where
  /-- A character. -/
  | char (c : Char)
  /-- A unit named by its digits. -/
  | unit (n : Nat)
deriving DecidableEq, Repr

/-- Whether a unit is the first of a surrogate pair. -/
def isHighSurrogate (n : Nat) : Bool := 0xD800 ≤ n && n < 0xDC00

/-- Whether a unit is the second of a surrogate pair. -/
def isLowSurrogate (n : Nat) : Bool := 0xDC00 ≤ n && n < 0xE000

/-- The character of a surrogate pair. -/
def pairChar (high low : Nat) : Char :=
  .ofNat (0x10000 + (high - 0xD800) * 0x400 + (low - 0xDC00))

/-- The characters that pieces stand for. -/
def charsOfPieces? : List Piece → Option (List Char)
  | [] => some []
  | .char c :: rest => (charsOfPieces? rest).map (c :: ·)
  | .unit n :: rest =>
      if isHighSurrogate n then
        match rest with
        | .unit m :: rest =>
            if isLowSurrogate m then (charsOfPieces? rest).map (pairChar n m :: ·) else none
        | _ => none
      else if isLowSurrogate n then none
      else (charsOfPieces? rest).map (.ofNat n :: ·)

/-- The text that pieces stand for. -/
def textOfPieces? (pieces : List Piece) : Option String :=
  (charsOfPieces? pieces).map String.ofList

end Chip8.Json
