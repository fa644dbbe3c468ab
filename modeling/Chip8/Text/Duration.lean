/-!
# Durations

A duration is a number of nanoseconds.  Its text names the largest of the units
s, ms, µs and ns that the duration reaches, and gives the exact fraction of that
unit with no trailing zeros.
-/

namespace Chip8.Duration

/-- Nanoseconds in a microsecond. -/
def microsecond : Nat := 1000

/-- Nanoseconds in a millisecond. -/
def millisecond : Nat := 1000000

/-- Nanoseconds in a second. -/
def second : Nat := 1000000000

/-- A list of digits without its trailing zeros. -/
def withoutTrailingZeros (digits : List Char) : List Char :=
  (digits.reverse.dropWhile (· = '0')).reverse

/-- The fractional part of a number of units, `places` digits at most, with its point. -/
def fraction (places part : Nat) : List Char :=
  if part = 0 then []
  else
    let digits := Nat.toDigits 10 part
    '.' :: withoutTrailingZeros (List.replicate (places - digits.length) '0' ++ digits)

/-- A duration in a unit of a number of nanoseconds, with a fraction of `places` digits at most. -/
def inUnit (ns size places : Nat) (unit : String) : String :=
  toString (ns / size) ++ .ofList (fraction places (ns % size)) ++ unit

/-- The text of a duration given in nanoseconds. -/
def text (ns : Nat) : String :=
  if second ≤ ns then inUnit ns second 9 "s"
  else if millisecond ≤ ns then inUnit ns millisecond 6 "ms"
  else if microsecond ≤ ns then inUnit ns microsecond 3 "µs"
  else inUnit ns 1 0 "ns"

example : text 0 = "0ns" := by decide
example : text 1501 = "1.501µs" := by decide
example : text 100000001 = "100.000001ms" := by decide
example : text 1500000000 = "1.5s" := by decide

end Chip8.Duration
