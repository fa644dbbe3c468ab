import Chip8.Opcode

/-!
# Opcodes as instruction words

Decoding picks the opcode by the family, and in four families by the low byte
or the low nibble as well.  A pattern no opcode has is unassigned and decodes to
nothing.  Encoding writes the operands into their fields, cut to four bits for a
register or a row count and to twelve for an address.

`toNat_registerByte`, `toNat_registerPair` and `toNat_addressed` give the word of
each layout as a number, and `length_assemble` says that every opcode takes two
bytes.
-/

namespace Chip8

/-- The opcode of an instruction, nothing for an unassigned pattern. -/
def Instruction.decode? (i : Instruction) : Option Opcode :=
  match i.family.toNat with
  | 0x0 => if i.low = 0xEE then some .ret else none
  | 0x1 => some (.jump i.address)
  | 0x2 => some (.call i.address)
  | 0x3 => some (.skipIfByte i.x i.low)
  | 0x4 => some (.skipUnlessByte i.x i.low)
  | 0x5 => if i.n = 0 then some (.skipIfSame i.x i.y) else none
  | 0x6 => some (.loadByte i.x i.low)
  | 0x7 => some (.addByte i.x i.low)
  | 0x8 =>
      match i.n.toNat with
      | 0x0 => some (.move i.x i.y)
      | 0x2 => some (.conjoin i.x i.y)
      | 0x4 => some (.add i.x i.y)
      | 0x5 => some (.subtract i.x i.y)
      | 0x6 => some (.shiftRight i.x i.y)
      | 0xE => some (.shiftLeft i.x i.y)
      | _ => none
  | 0xA => some (.loadIndex i.address)
  | 0xC => some (.random i.x i.low)
  | 0xD => some (.draw i.x i.y i.n)
  | 0xE => if i.low = 0xA1 then some (.skipIfKeyUp i.x) else none
  | 0xF =>
      match i.low.toNat with
      | 0x07 => some (.readDelay i.x)
      | 0x15 => some (.setDelay i.x)
      | 0x18 => some (.setSound i.x)
      | 0x1E => some (.addIndex i.x)
      | 0x29 => some (.loadGlyph i.x)
      | 0x33 => some (.storeDigits i.x)
      | 0x55 => some (.saveRegisters i.x)
      | 0x65 => some (.loadRegisters i.x)
      | _ => none
  | _ => none

namespace Opcode

/-- The word with a register and a byte after the family. -/
def registerByte (family : UInt16) (x byte : UInt8) : UInt16 :=
  family * 4096 + (x % 16).toUInt16 * 256 + byte.toUInt16

/-- The word with two registers and a nibble after the family. -/
def registerPair (family : UInt16) (x y n : UInt8) : UInt16 :=
  family * 4096 + (x % 16).toUInt16 * 256 + (y % 16).toUInt16 * 16 + (n % 16).toUInt16

/-- The word with an address after the family. -/
def addressed (family : UInt16) (address : UInt16) : UInt16 := family * 4096 + address % 4096

/-- The instruction word of an opcode. -/
def encode : Opcode → UInt16
  | ret => 0x00EE
  | jump a => addressed 0x1 a
  | call a => addressed 0x2 a
  | skipIfByte x b => registerByte 0x3 x b
  | skipUnlessByte x b => registerByte 0x4 x b
  | skipIfSame x y => registerPair 0x5 x y 0x0
  | loadByte x b => registerByte 0x6 x b
  | addByte x b => registerByte 0x7 x b
  | move x y => registerPair 0x8 x y 0x0
  | conjoin x y => registerPair 0x8 x y 0x2
  | add x y => registerPair 0x8 x y 0x4
  | subtract x y => registerPair 0x8 x y 0x5
  | shiftRight x y => registerPair 0x8 x y 0x6
  | shiftLeft x y => registerPair 0x8 x y 0xE
  | loadIndex a => addressed 0xA a
  | random x b => registerByte 0xC x b
  | draw x y n => registerPair 0xD x y n
  | skipIfKeyUp x => registerByte 0xE x 0xA1
  | readDelay x => registerByte 0xF x 0x07
  | setDelay x => registerByte 0xF x 0x15
  | setSound x => registerByte 0xF x 0x18
  | addIndex x => registerByte 0xF x 0x1E
  | loadGlyph x => registerByte 0xF x 0x29
  | storeDigits x => registerByte 0xF x 0x33
  | saveRegisters x => registerByte 0xF x 0x55
  | loadRegisters x => registerByte 0xF x 0x65

/-- The bytes of an opcode as they stand in memory. -/
def bytes (op : Opcode) : List UInt8 :=
  [(Instruction.ofWord op.encode).high, (Instruction.ofWord op.encode).low]

/-- The program that runs a list of opcodes. -/
def assemble (ops : List Opcode) : List UInt8 := ops.flatMap bytes

theorem length_assemble (ops : List Opcode) : (assemble ops).length = 2 * ops.length := by
  induction ops with
  | nil => rfl
  | cons op ops ih =>
    simp only [assemble, List.flatMap_cons, List.length_append, List.length_cons] at *
    simp only [bytes, List.length_cons, List.length_nil]
    omega

/-! ## Layouts as numbers -/

theorem toNat_registerByte {family : UInt16} (h : family < 16) (x b : UInt8) :
    (registerByte family x b).toNat = family.toNat * 4096 + x.toNat % 16 * 256 + b.toNat := by
  have hf : family.toNat < 16 := h
  have hb := b.toNat_lt
  simp only [registerByte, UInt16.toNat_add, UInt16.toNat_mul, UInt8.toNat_toUInt16,
    UInt8.toNat_mod]
  simp only [UInt16.reduceToNat, UInt8.reduceToNat]
  omega

theorem toNat_registerPair {family : UInt16} (h : family < 16) (x y n : UInt8) :
    (registerPair family x y n).toNat =
      family.toNat * 4096 + x.toNat % 16 * 256 + y.toNat % 16 * 16 + n.toNat % 16 := by
  have hf : family.toNat < 16 := h
  simp only [registerPair, UInt16.toNat_add, UInt16.toNat_mul, UInt8.toNat_toUInt16,
    UInt8.toNat_mod]
  simp only [UInt16.reduceToNat, UInt8.reduceToNat]
  omega

theorem toNat_addressed {family : UInt16} (h : family < 16) (a : UInt16) :
    (addressed family a).toNat = family.toNat * 4096 + a.toNat % 4096 := by
  have hf : family.toNat < 16 := h
  simp only [addressed, UInt16.toNat_add, UInt16.toNat_mul, UInt16.toNat_mod]
  simp only [UInt16.reduceToNat]
  omega

end Opcode

end Chip8
