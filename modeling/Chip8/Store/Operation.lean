import Chip8.Event
import Chip8.Store

/-!
# Operations on a store

The operations a caller can ask a store for, as data, with the answers they give.
A history of a store is then a list of operations, and a statement about every
history is a statement about every list.

`Store.perform` carries one out, and hands on the store as the operation left it,
also after a failure.
-/

namespace Chip8

namespace Store

/-- A request to a store. -/
inductive Operation where
  /-- The byte at an address. -/
  | readByte (address : Nat)
  /-- Replace the byte at an address. -/
  | writeByte (address : Nat) (byte : UInt8)
  /-- The bytes of a span. -/
  | slice (address length : Nat)
  /-- The instruction at PC. -/
  | instruction
  /-- Push a return address, PC itself when none is given. -/
  | pushReturn (address : Option UInt16)
  /-- Take the return address on top. -/
  | popReturn
  /-- The return address on top. -/
  | peekReturn
  /-- Whether the stack is full. -/
  | stackIsFull
  /-- The program counter. -/
  | getPc
  /-- Move PC to an address. -/
  | setPc (address : UInt16)
  /-- Move PC by a distance. -/
  | advancePc (distance : Int)
  /-- The value of a V register. -/
  | getV (x : UInt8)
  /-- Replace the value of a V register. -/
  | setV (x : UInt8) (value : UInt16)
  /-- Add to a V register. -/
  | addV (x : UInt8) (delta : UInt16)
  /-- The value of I. -/
  | getI
  /-- Replace I. -/
  | setI (value : UInt16)
  /-- The delay timer. -/
  | getDelay
  /-- Replace the delay timer. -/
  | setDelay (value : UInt8)
  /-- The sound timer. -/
  | getSound
  /-- Replace the sound timer. -/
  | setSound (value : UInt8)
  /-- Replace the bound on timer values. -/
  | setTimerBound (bound : TimerBound)
  /-- The address of the first glyph. -/
  | fontBase
  /-- Write the program afresh and clear every register. -/
  | reset
  /-- Replace the program and reset. -/
  | load (program : List UInt8)
  /-- The program. -/
  | program
  /-- The registers, unused stack slots included. -/
  | registers
  /-- A one-line description of memory. -/
  | describeMemory
deriving DecidableEq, Repr

/-- The answer to a request. -/
inductive Answer where
  /-- It was done. -/
  | done
  /-- A number: a byte, an address or a 16-bit value. -/
  | number (n : Nat)
  /-- A truth value. -/
  | flag (b : Bool)
  /-- Some bytes. -/
  | bytes (bytes : List UInt8)
  /-- An instruction. -/
  | instruction (i : Instruction)
  /-- The registers. -/
  | registers (r : Registers)
  /-- A description. -/
  | text (s : String)
deriving DecidableEq

/-- An answer that leaves the store alone. -/
def answering (s : Store) (e : Except Stop Answer) : Outcome Store Answer := ⟨⟨e, s⟩, []⟩

/-- What is answered to an effect, with the store that it left. -/
def answerTo {α : Type} (a : Attempt Fault Store α) (answer : α → Answer) :
    Outcome Store Answer :=
  ⟨⟨(Stop.ofFault a.result).map answer, a.state⟩, []⟩

/-- An effect with nothing to answer but that it was done. -/
def changing (a : Attempt Fault Store Unit) : Outcome Store Answer := answerTo a fun () => .done

/-- A number to answer with. -/
def numbered (e : Except Fault Nat) : Except Stop Answer := (Stop.ofFault e).map .number

/-- The event of a reset that left this store. -/
def resetEvent (s : Store) : Event := .storeReset s.program.length

/-- The answer to a request, and the store after it. -/
def perform (s : Store) : Operation → Outcome Store Answer
  | .readByte a => s.answering (numbered ((s.readByte a).map UInt8.toNat))
  | .writeByte a b => changing (s.writeByte a b)
  | .slice a n => s.answering ((s.memory.slice a n).map .bytes)
  | .instruction => s.answering ((Stop.ofFault s.instruction).map .instruction)
  | .pushReturn a => changing (s.pushReturn a)
  | .popReturn => answerTo s.popReturn fun a => .number a.toNat
  | .peekReturn => s.answering (numbered (s.peekReturn.map UInt16.toNat))
  | .stackIsFull => s.answering (.ok (.flag s.registers.stack.isFull))
  | .getPc => s.answering (.ok (.number s.registers.pc.toNat))
  | .setPc a => changing (s.jump a.toNat)
  | .advancePc d => changing (s.advance d)
  | .getV x => s.answering (numbered ((s.getV x).map UInt8.toNat))
  | .setV x v => changing (s.setV x v)
  | .addV x d => changing (s.addV x d)
  | .getI => s.answering (.ok (.number s.registers.i.toNat))
  | .setI v => changing ⟨.ok (), s.setI v⟩
  | .getDelay => s.answering (.ok (.number s.registers.delay.toNat))
  | .setDelay v => changing (s.setDelay v)
  | .getSound => s.answering (.ok (.number s.registers.sound.toNat))
  | .setSound v => changing (s.setSound v)
  | .setTimerBound b => changing ⟨.ok (), s.setTimerBound b⟩
  | .fontBase => s.answering (.ok (.number Memory.fontBase.toNat))
  | .reset => { changing ⟨.ok (), s.reset⟩ with events := [s.resetEvent] }
  | .load p =>
      let loaded := s.load p
      match loaded.result with
      | .ok () => { changing loaded with events := [loaded.state.resetEvent] }
      | .error _ => changing loaded
  | .program => s.answering (.ok (.bytes s.program))
  | .registers => s.answering (.ok (.registers s.registers))
  | .describeMemory => s.answering (.ok (.text s.memory.describe))

/-- The store after a list of requests. -/
def performAll (s : Store) (ops : List Operation) : Store :=
  ops.foldl (fun t op => (t.perform op).state) s

@[simp] theorem performAll_nil (s : Store) : s.performAll [] = s := rfl

@[simp] theorem performAll_cons (s : Store) (op : Operation) (ops : List Operation) :
    s.performAll (op :: ops) = (s.perform op).state.performAll ops := rfl

end Store

end Chip8
