import Chip8.Cpu

/-!
# The machine described

A one-line description of a machine for a person: its count of instructions, its
dialect and its registers with every stack slot.  The devices and memory are left
out.
-/

namespace Chip8

/-- The name of a choice in a description. -/
def ShiftSource.describe : ShiftSource → String
  | vy => "Vy"
  | vx => "Vx"

/-- The name of a choice in a description. -/
def CollisionRule.describe : CollisionRule → String
  | equal => "Equal"
  | erased => "Erased"

/-- The name of a choice in a description. -/
def DigitLayout.describe : DigitLayout → String
  | literal => "Literal"
  | canonical => "Canonical"

/-- The name of a choice in a description. -/
def TimerBound.describe : TimerBound → String
  | below255 => "Below255"
  | full => "Full"

/-- The choices of a dialect. -/
def Dialect.describe (d : Dialect) : String :=
  Description.record "Quirks"
    [("shift", d.shift.describe), ("collision", d.collision.describe),
      ("bcd", d.digits.describe), ("timer_bound", d.timerBound.describe)]

/-- Every slot and the depth. -/
def ReturnStack.describe (s : ReturnStack) : String :=
  Description.record "Stack"
    [("slots", Description.list (s.slots.toList.map fun a => toString a.toNat)),
      ("depth", toString s.depth.val)]

/-- Every register. -/
def Registers.describe (r : Registers) : String :=
  Description.record "Registers"
    [("v", Description.list (r.v.toList.map fun b => toString b.toNat)),
      ("i", toString r.i.toNat), ("pc", toString r.pc.toNat), ("stack", r.stack.describe),
      ("delay", toString r.delay.toNat), ("sound", toString r.sound.toNat)]

/-- The count of instructions, the dialect and the registers. -/
def Cpu.describe {δ : Type} (c : Cpu δ) : String :=
  Description.record "Cpu"
    [("cycles", toString c.cycles), ("quirks", c.dialect.describe),
      ("regs", c.store.registers.describe)]

end Chip8
