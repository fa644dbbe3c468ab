import Chip8.Bell
import Chip8.Display
import Chip8.Event
import Chip8.Keypad
import Chip8.Random
import Chip8.Store
import Chip8.Text.Description

/-!
# The machine

A store with its devices: a display of any kind, the keypad, the bell and a
source of random bytes.  The machine also keeps its dialect, how many
instructions it has run, and the last of them.

The dialect holds the bound on timer values, and so does the store, which checks
them.  Everything that sets one sets the other (`Cpu.setDialect`, `Cpu.new`).

A reset writes the program afresh, then clears the display, then forgets the
instructions that ran.  When the display cannot be cleared the reset stops there,
with the store already reset and the count of instructions kept.  The keypad, the
bell, the dialect and the random source are never reset.
-/

namespace Chip8

/-- A machine over a display of some kind. -/
structure Cpu (δ : Type) where
  /-- The program's data. -/
  store : Store
  /-- The plane of pixels. -/
  display : δ
  /-- The keys. -/
  keypad : Keypad
  /-- The bell. -/
  bell : Bell
  /-- The choices on each point of disagreement. -/
  dialect : Dialect
  /-- The source of random bytes. -/
  random : Random
  /-- How many instructions have run. -/
  cycles : Nat
  /-- The last instruction that ran. -/
  last : Option Instruction

namespace Cpu

variable {δ : Type}

/-- The machine with another dialect. -/
def setDialect (c : Cpu δ) (dialect : Dialect) : Cpu δ :=
  { c with dialect, store := c.store.setTimerBound dialect.timerBound }

/-- A machine that has run nothing, over a store and a display, in the default dialect. -/
def new (store : Store) (display : δ) (seed : UInt64) : Cpu δ :=
  setDialect ⟨store, display, .released, {}, {}, .ofSeed seed, 0, none⟩ {}

/-- The machine with its program written afresh, a clear display and no history. -/
def reset [Display δ] (c : Cpu δ) : Outcome (Cpu δ) Unit :=
  let store := c.store.reset
  let cleared := Display.clear c.display
  let events := [.storeReset store.program.length]
  match cleared.result with
  | .error stop => ⟨⟨.error stop, { c with store, display := cleared.state }⟩, events⟩
  | .ok () =>
      ⟨⟨.ok (), { c with store, display := cleared.state, cycles := 0, last := none }⟩, events⟩

end Cpu

end Chip8
