import Chip8.Instruction

/-!
# Opcodes

The twenty-six operations of the machine with their operands.  An operand is
kept at the width it is written with in a program file, a byte or a 16-bit
address, and only writing the opcode as an instruction word cuts it to its
field.  So an opcode read from a file may hold an operand that no word holds,
and its mnemonic shows that operand whole.

The mnemonic is a head and a list of operands (`Opcode.head`, `Opcode.operands`),
and its text joins the two.  Many opcodes share a head and are told apart by the
shapes of their operands alone.
-/

namespace Chip8

/-- An operation of the machine.  `x` and `y` name V registers. -/
inductive Opcode where
  /-- Jump to the instruction after the call on top of the stack (`00EE`). -/
  | ret
  /-- Jump (`1nnn`). -/
  | jump (target : UInt16)
  /-- Push PC and jump (`2nnn`). -/
  | call (target : UInt16)
  /-- Skip the next instruction when Vx is the byte (`3xkk`). -/
  | skipIfByte (x byte : UInt8)
  /-- Skip the next instruction unless Vx is the byte (`4xkk`). -/
  | skipUnlessByte (x byte : UInt8)
  /-- Skip the next instruction when Vx and Vy are equal (`5xy0`). -/
  | skipIfSame (x y : UInt8)
  /-- Vx becomes the byte (`6xkk`). -/
  | loadByte (x byte : UInt8)
  /-- The byte is added to Vx, with no carry (`7xkk`). -/
  | addByte (x byte : UInt8)
  /-- Vx becomes Vy (`8xy0`). -/
  | move (x y : UInt8)
  /-- Vx becomes the bitwise and of Vx and Vy (`8xy2`). -/
  | conjoin (x y : UInt8)
  /-- Vy is added to Vx, and VF becomes the carry (`8xy4`). -/
  | add (x y : UInt8)
  /-- VF tells whether Vx is above Vy, then Vy is taken from Vx (`8xy5`). -/
  | subtract (x y : UInt8)
  /-- VF becomes the low bit and the register shifts right (`8xy6`). -/
  | shiftRight (x y : UInt8)
  /-- VF becomes the high bit and the register shifts left (`8xyE`). -/
  | shiftLeft (x y : UInt8)
  /-- I becomes the address (`Annn`). -/
  | loadIndex (address : UInt16)
  /-- Vx is added to I (`Fx1E`). -/
  | addIndex (x : UInt8)
  /-- I becomes the address of the glyph of Vx (`Fx29`). -/
  | loadGlyph (x : UInt8)
  /-- Vx becomes a random byte masked by the operand (`Cxkk`). -/
  | random (x mask : UInt8)
  /-- Draw `rows` sprite rows from I at the position (Vx, Vy) (`Dxyn`). -/
  | draw (x y rows : UInt8)
  /-- Skip the next instruction unless the key Vx is down (`ExA1`). -/
  | skipIfKeyUp (x : UInt8)
  /-- Vx becomes the delay timer (`Fx07`). -/
  | readDelay (x : UInt8)
  /-- The delay timer becomes Vx (`Fx15`). -/
  | setDelay (x : UInt8)
  /-- The sound timer becomes Vx (`Fx18`). -/
  | setSound (x : UInt8)
  /-- Write the decimal digits of Vx at I (`Fx33`). -/
  | storeDigits (x : UInt8)
  /-- Copy V0 to Vx into memory from I (`Fx55`). -/
  | saveRegisters (x : UInt8)
  /-- Copy memory from I into V0 to Vx (`Fx65`). -/
  | loadRegisters (x : UInt8)
deriving DecidableEq, Repr

/-- An operand as the mnemonic shows it. -/
inductive Operand where
  /-- A V register. -/
  | register (r : UInt8)
  /-- An immediate byte. -/
  | byte (b : UInt8)
  /-- An address. -/
  | address (a : UInt16)
  /-- A number of rows. -/
  | count (n : UInt8)
  /-- The register I. -/
  | index
  /-- The memory at I. -/
  | memory
  /-- The delay timer. -/
  | delay
  /-- The sound timer. -/
  | sound
  /-- A glyph of the font. -/
  | glyph
  /-- Decimal digits. -/
  | digits
deriving DecidableEq, Repr

/-- The text of an operand. -/
def Operand.text : Operand → String
  | .register r => "V" ++ Numeral.hex 1 r.toNat
  | .byte b => "0x" ++ Numeral.hex 2 b.toNat
  | .address a => "0x" ++ Numeral.hex 3 a.toNat
  | .count n => toString n.toNat
  | .index => "I"
  | .memory => "[I]"
  | .delay => "DT"
  | .sound => "ST"
  | .glyph => "F"
  | .digits => "B"

namespace Opcode

/-- The first word of the mnemonic. -/
def head : Opcode → String
  | ret => "RET"
  | jump _ => "JP"
  | call _ => "CALL"
  | skipIfByte _ _ | skipIfSame _ _ => "SE"
  | skipUnlessByte _ _ => "SNE"
  | addByte _ _ | add _ _ | addIndex _ => "ADD"
  | conjoin _ _ => "AND"
  | subtract _ _ => "SUB"
  | shiftRight _ _ => "SHR"
  | shiftLeft _ _ => "SHL"
  | random _ _ => "RND"
  | draw _ _ _ => "DRW"
  | skipIfKeyUp _ => "SKNP"
  | loadByte _ _ | move _ _ | loadIndex _ | loadGlyph _ | readDelay _ | setDelay _ | setSound _
  | storeDigits _ | saveRegisters _ | loadRegisters _ => "LD"

/-- The operands of the mnemonic, in the order they are written. -/
def operands : Opcode → List Operand
  | ret => []
  | jump a | call a => [.address a]
  | skipIfByte x b | skipUnlessByte x b | loadByte x b | addByte x b | random x b =>
      [.register x, .byte b]
  | skipIfSame x y | move x y | conjoin x y | add x y | subtract x y | shiftRight x y
  | shiftLeft x y => [.register x, .register y]
  | loadIndex a => [.index, .address a]
  | addIndex x => [.index, .register x]
  | loadGlyph x => [.glyph, .register x]
  | draw x y n => [.register x, .register y, .count n]
  | skipIfKeyUp x => [.register x]
  | readDelay x => [.register x, .delay]
  | setDelay x => [.delay, .register x]
  | setSound x => [.sound, .register x]
  | storeDigits x => [.digits, .register x]
  | saveRegisters x => [.memory, .register x]
  | loadRegisters x => [.register x, .memory]

/-- The assembly text of an opcode: the head, then the operands between commas. -/
def mnemonic (op : Opcode) : String :=
  match op.operands with
  | [] => op.head
  | operands => op.head ++ " " ++ ", ".intercalate (operands.map Operand.text)

/-- Whether the opcode always says itself where PC goes.  Any other opcode may fall through to
the instruction after it. -/
def branches : Opcode → Bool
  | ret | jump _ | call _ => true
  | _ => false

example : (draw 1 2 15).mnemonic = "DRW V1, V2, 15" := by decide
example : (skipIfByte 10 0x42).mnemonic = "SE VA, 0x42" := by decide
example : (loadRegisters 16).mnemonic = "LD V10, [I]" := by decide

end Opcode

end Chip8
