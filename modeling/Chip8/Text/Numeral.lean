/-!
# Numerals

Numbers as text in the three forms the machine prints them in: upper-case
hexadecimal filled with zeros to a least width, lower-case hexadecimal filled
the same way, and decimal filled with spaces.  A number wider than the least
width is printed whole, so no digit is ever lost.

`length_filled` says a filled numeral is never shorter than its width.
-/

namespace Chip8.Numeral

/-- A text filled on the left to a least width. -/
def filled (c : Char) (width : Nat) (digits : List Char) : List Char :=
  List.replicate (width - digits.length) c ++ digits

theorem length_filled (c : Char) (width : Nat) (digits : List Char) :
    (filled c width digits).length = max width digits.length := by
  simp only [filled, List.length_append, List.length_replicate]
  omega

/-- The upper-case hexadecimal digits of a number. -/
def upperDigits (n : Nat) : List Char := (Nat.toDigits 16 n).map Char.toUpper

/-- Upper-case hexadecimal, filled with zeros. -/
def hex (width n : Nat) : String := .ofList (filled '0' width (upperDigits n))

/-- Lower-case hexadecimal, filled with zeros. -/
def lowerHex (width n : Nat) : String := .ofList (filled '0' width (Nat.toDigits 16 n))

/-- Decimal, filled with spaces. -/
def decimal (width n : Nat) : String := .ofList (filled ' ' width (Nat.toDigits 10 n))

example : hex 3 0xA = "00A" := by decide
example : hex 2 0x1FF = "1FF" := by decide
example : lowerHex 1 0xFF = "ff" := by decide
example : decimal 3 7 = "  7" := by decide

end Chip8.Numeral
