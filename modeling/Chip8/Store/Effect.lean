import Chip8.Store

/-!
# What instructions do to a store

The instructions that need no device, each as the sequence of checks and writes
that it makes.  The order is part of the definition twice over.  Where an
instruction writes both a register and the flag VF, the later of the two writes is
the one that counts when the register is VF itself.  And a write before a check
that fails stays written.

The instructions on memory check the whole span they touch, and then go through it
byte by byte.  The literal layout of decimal digits runs three passes over one
byte.  A pass stores the lowest digit of the value, adds the next digit to what it
stored, and moves the sum up by four bits.
-/

namespace Chip8

/-- Where PC goes after an instruction. -/
inductive Flow where
  /-- To the instruction after it. -/
  | next
  /-- Past the instruction after it. -/
  | skip
  /-- To an address. -/
  | jump (target : UInt16)
deriving DecidableEq, Repr

/-- Past the next instruction when a condition holds. -/
def Flow.skipWhen (condition : Bool) : Flow := if condition then skip else next

namespace Store

/-- Move PC on. -/
def follow : Flow → Effect Store Unit
  | .next => advance 2
  | .skip => advance 4
  | .jump target => jump target.toNat

/-! ## Calls -/

/-- Jump to the instruction after the call on top of the stack. -/
def returnFromCall : Effect Store Flow := do
  let caller ← peekReturn
  let target ← CodeAddress.check (caller.toNat + 2)
  let _ ← popReturn
  return .jump target

/-- Push PC and jump. -/
def callTo (target : UInt16) : Effect Store Flow := do
  let target ← CodeAddress.check target.toNat
  pushReturn none
  return .jump target

/-! ## Arithmetic -/

/-- A truth value as it is kept in the flag register. -/
def flagValue (b : Bool) : UInt16 := if b then 1 else 0

/-- Vx becomes Vy. -/
def move (x y : UInt8) : Effect Store Unit := do
  let b ← getV y
  setV x b.toUInt16

/-- Vx becomes the bitwise and of Vx and Vy. -/
def conjoin (x y : UInt8) : Effect Store Unit := do
  let a ← getV x
  let b ← getV y
  setV x (a &&& b).toUInt16

/-- Vy is added to Vx, then VF becomes the carry. -/
def addRegisters (x y : UInt8) : Effect Store Unit := do
  let a ← getV x
  let b ← getV y
  setV x (a.toUInt16 + b.toUInt16)
  setV Registers.flag (flagValue (a.toUInt16 + b.toUInt16 > 0xFF))

/-- VF tells whether Vx is above Vy, then Vx becomes their difference. -/
def subtract (x y : UInt8) : Effect Store Unit := do
  let a ← getV x
  let b ← getV y
  setV Registers.flag (flagValue (a > b))
  setV x (a - b).toUInt16

/-- VF becomes the low bit, then the register is halved. -/
def shiftRight (r : UInt8) : Effect Store Unit := do
  let a ← getV r
  setV Registers.flag (a % 2).toUInt16
  setV r (a / 2).toUInt16

/-- VF becomes the high bit, then the register is doubled. -/
def shiftLeft (r : UInt8) : Effect Store Unit := do
  let a ← getV r
  setV Registers.flag (a / 128).toUInt16
  setV r (a.toUInt16 * 2)

/-! ## The index register -/

/-- Vx is added to I. -/
def addIndex (x : UInt8) : Effect Store Unit := do
  let a ← getV x
  let i ← getI
  .change (·.setI (i + a.toUInt16))

/-- I becomes the address of the glyph of Vx. -/
def loadGlyph (x : UInt8) : Effect Store Unit := do
  let a ← getV x
  .change (·.setI (Memory.fontBase + a.toUInt16 * Memory.glyphSize))

/-! ## Timers -/

/-- Vx becomes the delay timer. -/
def readDelay (x : UInt8) : Effect Store Unit := do
  let delay ← getDelay
  setV x delay.toUInt16

/-- The delay timer becomes Vx. -/
def startDelay (x : UInt8) : Effect Store Unit := do
  let a ← getV x
  setDelay a

/-- The sound timer becomes Vx. -/
def startSound (x : UInt8) : Effect Store Unit := do
  let a ← getV x
  setSound a

/-! ## Memory -/

/-- One pass of the literal layout over a byte: the lowest digit of the value is stored, read back
with the next digit added, and stored again four bits up. -/
def digitPass (address value : Nat) : Effect Store Unit := do
  writeByte address (.ofNat (value % 10))
  let stored ← readByte address
  writeByte address (.ofNat ((stored.toNat + value / 10 % 10) * 16))

/-- Some passes of the literal layout, each with what the one before left of the value. -/
def digitPasses (address : Nat) : (passes value : Nat) → Effect Store Unit
  | 0, _ => pure ()
  | passes + 1, value => do
      digitPass address value
      digitPasses address passes (value / 100)

/-- Write the decimal digits of Vx where the layout puts them. -/
def storeDigits (layout : DigitLayout) (x : UInt8) : Effect Store Unit := do
  let value ← getV x
  let i ← getI
  match layout with
  | .literal =>
      Memory.checkSpan (i.toNat + 1) 1
      digitPasses (i.toNat + 1) 3 value.toNat
  | .canonical =>
      Memory.checkSpan i.toNat 3
      writeByte i.toNat (value / 100)
      writeByte (i.toNat + 1) (value / 10 % 10)
      writeByte (i.toNat + 2) (value % 10)

/-- The fault of a block of registers V0 to Vx at an address that does not fit, if it does not. -/
def checkBlock (base : Nat) (x : UInt8) : Except Fault Unit :=
  if x.toNat < 16 then Memory.checkSpan base (x.toNat + 1) else .error (.noSuchRegister x)

/-- Copy a V register into memory, as far above an address as its number. -/
def copyOut (base r : Nat) : Effect Store Unit := do
  let value ← getV (.ofNat r)
  writeByte (base + r) value

/-- Copy memory into a V register, from as far above an address as its number. -/
def copyIn (base r : Nat) : Effect Store Unit := do
  let value ← readByte (base + r)
  setV (.ofNat r) value.toUInt16

/-- Copy V0 to Vx into memory from I. -/
def saveRegisters (x : UInt8) : Effect Store Unit := do
  let i ← getI
  checkBlock i.toNat x
  (List.range (x.toNat + 1)).forM (copyOut i.toNat)

/-- Copy memory from I into V0 to Vx. -/
def loadRegisters (x : UInt8) : Effect Store Unit := do
  let i ← getI
  checkBlock i.toNat x
  (List.range (x.toNat + 1)).forM (copyIn i.toNat)

end Store

end Chip8
