import Chip8.Dialect
import Chip8.Instruction
import Chip8.Memory
import Chip8.Registers

/-!
# The store

Everything a program can change without a device: memory, registers, stack and
timers, together with the program itself and the bound on timer values.  Every
access is checked.  A bad one is reported as a fault and changes nothing, with
one exception by design: a value written to a V register is cut to a byte.

What only looks at a store is a query, and what changes it an effect, written as
the checks and the writes that it makes, in their order.

`reset_reset` says that resetting twice is resetting once, and `ofProgram?_reset`
that a new store is already reset.
-/

namespace Chip8

/-- The data of a loaded program. -/
structure Store where
  /-- The bytes. -/
  memory : Memory
  /-- The registers. -/
  registers : Registers
  /-- The program that a reset writes back. -/
  program : List UInt8
  /-- The values the timers accept. -/
  timerBound : TimerBound
deriving DecidableEq

namespace Store

/-- The fault of a program that does not fit, if it does not. -/
def checkProgram (program : List UInt8) : Except Fault Unit :=
  if program.length ≤ Memory.programSpace then .ok ()
  else .error (.programTooLarge program.length Memory.programSpace)

/-- The store with its program written afresh and every register cleared. -/
def reset (s : Store) : Store :=
  { s with memory := .image s.program, registers := .initial }

/-- Take another program, and reset. -/
def load (program : List UInt8) : Effect Store Unit := do
  checkProgram program
  .change fun s => { s with program }.reset

/-- The store of a program. -/
def ofProgram? (program : List UInt8) : Except Fault Store := do
  checkProgram program
  return (⟨.zero, .initial, program, .below255⟩ : Store).reset

/-! ## Parts of a store -/

/-- An effect on memory. -/
def onMemory {α : Type} (effect : Effect Memory α) : Effect Store α := fun s =>
  (effect s.memory).mapState fun memory => { s with memory }

/-- An effect on the registers. -/
def onRegisters {α : Type} (effect : Effect Registers α) : Effect Store α := fun s =>
  (effect s.registers).mapState fun registers => { s with registers }

/-- An effect on the return stack. -/
def onStack {α : Type} (effect : Effect ReturnStack α) : Effect Store α := fun s =>
  (effect s.registers.stack).mapState fun stack => { s with registers.stack := stack }

/-! ## Memory -/

/-- The byte at an address. -/
def readByte (address : Nat) : Query Store UInt8 := fun s => s.memory.read address

/-- Replace the byte at an address. -/
def writeByte (address : Nat) (byte : UInt8) : Effect Store Unit :=
  onMemory (Memory.write address byte)

/-- The instruction at PC. -/
def instruction (s : Store) : Except Fault Instruction := do
  let high ← s.memory.read s.registers.pc.toNat
  let low ← s.memory.read (s.registers.pc.toNat + 1)
  return ⟨high, low⟩

/-! ## The return stack -/

/-- Push a return address, PC itself when none is given. -/
def pushReturn (address : Option UInt16) : Effect Store Unit := fun s =>
  onStack (ReturnStack.push (address.getD s.registers.pc)) s

/-- Take the return address on top off the stack. -/
def popReturn : Effect Store UInt16 := onStack ReturnStack.pop

/-- The return address on top. -/
def peekReturn : Query Store UInt16 := fun s =>
  match s.registers.stack.top? with
  | some address => .ok address
  | none => .error .stackUnderflow

/-! ## The program counter -/

/-- Move PC to an address. -/
def jump (target : Int) : Effect Store Unit := onRegisters (Registers.jump target)

/-- Move PC by a distance. -/
def advance (distance : Int) : Effect Store Unit := fun s =>
  s.jump (s.registers.pc.toNat + distance)

/-! ## Registers and timers -/

/-- The value of a V register. -/
def getV (x : UInt8) : Query Store UInt8 := fun s => s.registers.getV x

/-- Put a value into a V register. -/
def setV (x : UInt8) (value : UInt16) : Effect Store Unit := onRegisters (Registers.setV x value)

/-- Add a value to a V register. -/
def addV (x : UInt8) (delta : UInt16) : Effect Store Unit := do
  let value ← getV x
  setV x (value.toUInt16 + delta)

/-- The value of I. -/
def getI : Query Store UInt16 := fun s => .ok s.registers.i

/-- The store with a value in I. -/
def setI (s : Store) (value : UInt16) : Store := { s with registers.i := value }

/-- The delay timer. -/
def getDelay : Query Store UInt8 := fun s => .ok s.registers.delay

/-- The fault of a value a timer does not take, if it does not. -/
def checkTimer (value : UInt8) : Query Store Unit := fun s =>
  if s.timerBound.accepts value then .ok () else .error (.timerOutOfRange value)

/-- Put a value into the delay timer. -/
def setDelay (value : UInt8) : Effect Store Unit := do
  checkTimer value
  .change fun s => { s with registers.delay := value }

/-- Put a value into the sound timer. -/
def setSound (value : UInt8) : Effect Store Unit := do
  checkTimer value
  .change fun s => { s with registers.sound := value }

/-- The store with another timer bound.  The timers keep their values. -/
def setTimerBound (s : Store) (bound : TimerBound) : Store := { s with timerBound := bound }

/-! ## Laws of resetting -/

@[simp] theorem reset_reset (s : Store) : s.reset.reset = s.reset := rfl

theorem ofProgram?_reset {program : List UInt8} {s : Store} (h : ofProgram? program = .ok s) :
    s.reset = s := by
  unfold ofProgram? at h
  cases hc : checkProgram program with
  | error f => rw [hc] at h; cases h
  | ok u => rw [hc] at h; cases h; rfl

end Store

end Chip8
