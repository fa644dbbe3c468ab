import Chip8.Config
import Chip8.Cpu.Describe
import Chip8.Cpu.Step
import Chip8.Display.FrameBuffer

/-!
# Building a machine from settings

A machine with a display in memory, of the size and the dialect the settings
give.  The program is checked before there is a display, and a display too large for
memory breaks the building off.

A machine that is shared between a scheduler and its owner is described through
`Cpu.describeShared`, which has nothing to tell while a callback holds it.
-/

namespace Chip8.Cpu

/-- The machine of a program and settings, and the events of building it. -/
def ofConfig? (program : List UInt8) (config : Config) (seed : UInt64) :
    Except Stop (Cpu FrameBuffer × List Event) := do
  let store ← Stop.ofFault (Store.ofProgram? program)
  let display ← FrameBuffer.blank? config.displayWidth.toNat config.displayHeight.toNat
  return ((Cpu.new store display seed).setDialect config.dialect, [.storeReset program.length])

/-- What is built over the store of an accepted program, where there is room for the display. -/
theorem ofConfig?_eq_ok_iff {program : List UInt8} {config : Config} {seed : UInt64}
    {built : Cpu FrameBuffer × List Event} :
    ofConfig? program config seed = .ok built ↔
      ∃ store plane, Store.ofProgram? program = .ok store ∧
        FrameBuffer.blank? config.displayWidth.toNat config.displayHeight.toNat = .ok plane ∧
        ((Cpu.new store plane seed).setDialect config.dialect,
          [.storeReset program.length]) = built := by
  simp only [ofConfig?, Stop.bind_eq_ok_iff, Stop.ofFault_eq_ok_iff, exists_and_left, pure,
    Except.pure, Except.ok.injEq]

/-- A one-line description of a shared machine. -/
def describeShared {δ : Type} (c : Cpu δ) (inUse : Bool) : String :=
  if inUse then "Machine(<busy>)" else "Machine(" ++ c.describe ++ ")"

end Chip8.Cpu
