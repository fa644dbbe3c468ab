import Chip8.Instruction

/-!
# Faults

A fault is the cause of a failed operation.  The store, the devices and the
running machine share the eight causes.  Nothing retries after a fault.  Whoever
asked for the operation decides what to do, and `Fault.message` is what a person
is told.

`Stop` adds the one way in which an operation ends without a cause: a crash.
-/

namespace Chip8

/-- Why an operation failed. -/
inductive Fault where
  /-- A memory or pixel address outside what is stored. -/
  | addressOutOfRange (address : Nat)
  /-- A jump, call or return target that is odd or outside memory. -/
  | badTarget (target : Int)
  /-- A register or key above fifteen. -/
  | noSuchRegister (index : UInt8)
  /-- A call with sixteen return addresses already stored. -/
  | stackOverflow
  /-- A return with no return address stored. -/
  | stackUnderflow
  /-- A word no opcode has, with the instruction that ran last. -/
  | unassigned (instruction : Instruction) (previous : Option Instruction)
  /-- A timer value above the accepted bound. -/
  | timerOutOfRange (value : UInt8)
  /-- A program longer than the memory above the entry point. -/
  | programTooLarge (size available : Nat)
deriving DecidableEq, Repr

/-- The 32-bit two's complement of a target, as a natural number. -/
def Fault.targetBits (target : Int) : Nat := (BitVec.ofInt 32 target).toNat

/-- What a person is told about a fault. -/
def Fault.message : Fault → String
  | addressOutOfRange a => "address 0x" ++ Numeral.hex 4 a ++ " is out of range"
  | badTarget t => "invalid instruction address 0x" ++ Numeral.lowerHex 4 (targetBits t)
  | noSuchRegister r =>
      "register or key index 0x" ++ Numeral.lowerHex 1 r.toNat ++ " does not exist"
  | stackOverflow => "stack overflow (16 return addresses already stored)"
  | stackUnderflow => "stack underflow (return with an empty stack)"
  | unassigned i none => "unsupported instruction " ++ i.text
  | unassigned i (some p) => "unsupported instruction " ++ i.text ++ " (after " ++ p.text ++ ")"
  | timerOutOfRange v => "timer value " ++ toString v.toNat ++ " is out of range"
  | programTooLarge size available =>
      "program size " ++ toString size ++ " exceeds available space " ++ toString available

example : (Fault.badTarget (-2)).message = "invalid instruction address 0xfffffffe" := by decide
example : (Fault.addressOutOfRange 15).message = "address 0x000F is out of range" := by decide

/-- How an operation ends early. -/
inductive Stop where
  /-- An operation reported a fault. -/
  | fault (f : Fault)
  /-- The operation broke off with no fault to report.  A run has one cause for it, a span of no
  bytes that starts beyond the end of memory: the span check lets every empty span pass, and there
  is no such place to take the bytes from.  The others are products of two sizes that are too large
  to be taken: the batch and the plane of a machine that is built, and the pixels of a plane that is
  cleared one by one. -/
  | crash
deriving DecidableEq, Repr

/-- A result whose only way to fail is a fault, where a crash could also happen. -/
def Stop.ofFault {α : Type} : Except Fault α → Except Stop α
  | .ok a => .ok a
  | .error f => .error (.fault f)

@[simp] theorem Stop.ofFault_ok {α : Type} (a : α) : ofFault (.ok a) = .ok a := rfl

@[simp] theorem Stop.ofFault_error {α : Type} (f : Fault) :
    ofFault (.error f : Except Fault α) = .error (.fault f) := rfl

theorem Stop.ofFault_eq_ok_iff {α : Type} {e : Except Fault α} {a : α} :
    ofFault e = .ok a ↔ e = .ok a := by
  cases e with
  | error f => simp
  | ok b => simp

/-- Two operations in a row come to their end when each does. -/
theorem Stop.bind_eq_ok_iff {α β : Type} {first : Except Stop α} {next : α → Except Stop β}
    {b : β} : first >>= next = .ok b ↔ ∃ a, first = .ok a ∧ next a = .ok b := by
  cases first with
  | error stop => simp [bind, Except.bind]
  | ok a => simp [bind, Except.bind]

end Chip8
