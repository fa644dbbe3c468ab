import Chip8.Cpu.Step

/-!
# Requests to a machine

What the owner of a machine can ask of it, as data, with the answers it gives.  A
history of a machine is a list of requests.  `Cpu.perform` carries one out, and a
request that fails may still have changed the machine: a step has ticked the
timers, a batch has run the steps before the failing one.
-/

namespace Chip8

namespace Cpu

/-- A request to a machine. -/
inductive Request where
  /-- Run the instruction at PC. -/
  | step
  /-- Run a number of instructions. -/
  | batch (count : Nat)
  /-- Put a key down. -/
  | press (key : UInt8)
  /-- Let a key up. -/
  | release (key : UInt8)
  /-- Let every key up. -/
  | releaseAll
  /-- Choose another dialect. -/
  | setDialect (dialect : Dialect)
  /-- Set a pixel of the display. -/
  | setPixel (offset : Nat) (value : UInt8)
  /-- Write the program afresh, clear the display and forget what ran. -/
  | reset
deriving DecidableEq, Repr

/-- The answer to a request. -/
inductive Reply where
  /-- It was done. -/
  | done
  /-- The opcode that ran. -/
  | ran (op : Opcode)
  /-- How many instructions ran. -/
  | count (n : Nat)
deriving DecidableEq, Repr

variable {δ : Type}

/-- What an effect on the keypad leaves of the machine. -/
def withKeypad (c : Cpu δ) (a : Attempt Fault Keypad Unit) : Outcome (Cpu δ) Reply :=
  ⟨⟨(Stop.ofFault a.result).map fun () => .done, { c with keypad := a.state }⟩, []⟩

/-- The answer to a request, and the machine after it. -/
def perform [Display δ] (c : Cpu δ) : Request → Outcome (Cpu δ) Reply
  | .step => let o := c.step; { o with result := o.result.map .ran }
  | .batch count => let o := c.runBatch count; { o with result := o.result.map .count }
  | .press key => c.withKeypad (c.keypad.press key)
  | .release key => c.withKeypad (c.keypad.release key)
  | .releaseAll => c.withKeypad ⟨.ok (), .released⟩
  | .setDialect dialect => ⟨⟨.ok .done, c.setDialect dialect⟩, []⟩
  | .setPixel offset value =>
      let set := Display.set c.display offset value
      ⟨⟨(Stop.ofFault set.result).map fun () => .done, { c with display := set.state }⟩, []⟩
  | .reset => let o := c.reset; { o with result := o.result.map fun () => .done }

/-- The machine after a list of requests, whatever came of each. -/
def performAll [Display δ] (c : Cpu δ) (requests : List Request) : Cpu δ :=
  requests.foldl (fun c r => (c.perform r).state) c

@[simp] theorem performAll_nil [Display δ] (c : Cpu δ) : c.performAll [] = c := rfl

@[simp] theorem performAll_cons [Display δ] (c : Cpu δ) (r : Request) (rs : List Request) :
    c.performAll (r :: rs) = (c.perform r).state.performAll rs := rfl

end Cpu

end Chip8
