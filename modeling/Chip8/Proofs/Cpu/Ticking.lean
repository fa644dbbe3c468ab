import Chip8.Cpu.Step
import Chip8.Proofs.Store.Effects

/-!
# The tick of the timers

A step counts the timers down through writes that are checked against the bound on
timer values.  A timer that is counted down has fallen, and no bound refuses what it
comes to.  So the tick never fails (`Cpu.tick_eq`), and leaves both timers one tick
later, with one more ring of the bell if the sound timer was running
(`Cpu.tickTimers`).

`runDecoded_eq` says what a decoded instruction leaves when its tick is taken for
granted.  It is the form of `Cpu.runDecoded` that the proofs about steps unfold.
-/

namespace Chip8

theorem Store.countDown_of_ne {timer : UInt8} (running : timer ≠ 0) :
    countDown timer = timer - 1 := if_neg running

namespace Cpu

variable {δ : Type}

/-- The machine with both timers one tick later.  The bell rings while the sound timer runs. -/
def tickTimers (c : Cpu δ) : Cpu δ :=
  { c with
    store := c.store.tickTimers
    bell := if c.store.registers.sound = 0 then c.bell else c.bell.ring }

theorem tickDelay_eq (c : Cpu δ) :
    c.tickDelay =
      ⟨.ok (), { c with store.registers.delay := Store.countDown c.store.registers.delay }⟩ := by
  rw [tickDelay]
  split
  next stopped =>
      have still : Store.countDown c.store.registers.delay = c.store.registers.delay := by
        rw [Store.countDown, if_pos stopped, stopped]
      rw [still]
  next running =>
      rw [← Store.countDown_of_ne running, Store.setDelay_eq, if_pos (Store.accepts_countDown _ _)]
      rfl

theorem tickSound_eq (c : Cpu δ) :
    c.tickSound =
      ⟨.ok (), { c with
        store.registers.sound := Store.countDown c.store.registers.sound
        bell := if c.store.registers.sound = 0 then c.bell else c.bell.ring }⟩ := by
  rw [tickSound]
  split
  next stopped =>
      have still : Store.countDown c.store.registers.sound = c.store.registers.sound := by
        rw [Store.countDown, if_pos stopped, stopped]
      rw [still]
  next running =>
      dsimp only
      rw [← Store.countDown_of_ne running, Store.setSound_eq, if_pos (Store.accepts_countDown _ _)]
      rfl

/-- The tick makes two checked writes at most, and the bound refuses neither. -/
theorem tick_eq (c : Cpu δ) : c.tick = ⟨.ok (), c.tickTimers⟩ := by
  rw [tick, tickDelay_eq, Attempt.andThen_ok, tickSound_eq]
  rfl

variable [Display δ]

theorem runDecoded_eq (c : Cpu δ) (i : Instruction) (op : Opcode) :
    c.runDecoded i op =
      match checkFallThrough c.store.registers.pc op with
      | .error f => ⟨.error (.fault f), c⟩
      | .ok () =>
          (c.tickTimers.executeAndMove op).andThen fun () c =>
            ⟨.ok op, { c with cycles := c.cycles + 1, last := some i }⟩ := by
  rw [runDecoded]
  cases checkFallThrough c.store.registers.pc op with
  | error f => rfl
  | ok u =>
      dsimp only
      rw [tick_eq, Attempt.andThen_ok]

end Cpu

end Chip8
