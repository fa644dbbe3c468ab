import Chip8.Text.Numeral

/-!
# Instruction words

An instruction is two bytes, the high one first in memory.  The high nibble of
the high byte is the family.  The other three nibbles are read as the operands
`x`, `y` and `n`, or the last two of them as a byte, or all three as a 12-bit
address.

The fields are read off by division and remainder, so that the arithmetic of a
field is the arithmetic of natural numbers.  `word_ofWord` and `ofWord_word`
say that an instruction and its word determine each other.
-/

namespace Chip8

/-- The two bytes of an instruction. -/
structure Instruction where
  /-- The byte at the lower address. -/
  high : UInt8
  /-- The byte after it, which is also the immediate operand. -/
  low : UInt8
deriving DecidableEq, Repr

namespace Instruction

/-- The high nibble of the high byte. -/
def family (i : Instruction) : UInt8 := i.high / 16

/-- The low nibble of the high byte. -/
def x (i : Instruction) : UInt8 := i.high % 16

/-- The high nibble of the low byte. -/
def y (i : Instruction) : UInt8 := i.low / 16

/-- The low nibble of the low byte. -/
def n (i : Instruction) : UInt8 := i.low % 16

/-- The 12-bit address operand. -/
def address (i : Instruction) : UInt16 := i.x.toUInt16 * 256 + i.low.toUInt16

/-- The instruction as one word, high byte first. -/
def word (i : Instruction) : UInt16 := i.high.toUInt16 * 256 + i.low.toUInt16

/-- The instruction a word holds. -/
def ofWord (w : UInt16) : Instruction := ⟨(w / 256).toUInt8, w.toUInt8⟩

/-- The word in hexadecimal. -/
def text (i : Instruction) : String := "0x" ++ Numeral.hex 4 i.word.toNat

/-! ## Fields as numbers -/

theorem toNat_family (i : Instruction) : i.family.toNat = i.high.toNat / 16 := by
  simp [family]

theorem toNat_x (i : Instruction) : i.x.toNat = i.high.toNat % 16 := by
  simp [x]

theorem toNat_y (i : Instruction) : i.y.toNat = i.low.toNat / 16 := by
  simp [y]

theorem toNat_n (i : Instruction) : i.n.toNat = i.low.toNat % 16 := by
  simp [n]

theorem toNat_word (i : Instruction) : i.word.toNat = i.high.toNat * 256 + i.low.toNat := by
  have hh := i.high.toNat_lt
  have hl := i.low.toNat_lt
  simp only [word, UInt16.toNat_add, UInt16.toNat_mul, UInt8.toNat_toUInt16]
  simp only [UInt16.reduceToNat]
  omega

theorem toNat_address (i : Instruction) :
    i.address.toNat = i.high.toNat % 16 * 256 + i.low.toNat := by
  have hl := i.low.toNat_lt
  simp only [address, UInt16.toNat_add, UInt16.toNat_mul, UInt8.toNat_toUInt16, toNat_x]
  simp only [UInt16.reduceToNat]
  omega

theorem ofWord_word (i : Instruction) : ofWord i.word = i := by
  have hh := i.high.toNat_lt
  have hl := i.low.toNat_lt
  have hw := toNat_word i
  cases i with
  | mk high low =>
    simp only [ofWord, mk.injEq, ← UInt8.toNat_inj, UInt16.toNat_toUInt8, UInt16.toNat_div] at *
    simp only [UInt16.reduceToNat]
    omega

theorem word_ofWord (w : UInt16) : (ofWord w).word = w := by
  have hw := w.toNat_lt
  rw [← UInt16.toNat_inj, toNat_word]
  simp only [ofWord, UInt16.toNat_toUInt8, UInt16.toNat_div]
  simp only [UInt16.reduceToNat]
  omega

end Instruction

end Chip8
