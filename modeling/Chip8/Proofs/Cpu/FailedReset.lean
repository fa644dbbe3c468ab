import Chip8.Cpu.Request
import Chip8.Display.Panel
import Chip8.Proofs.Cpu.Batch
import Chip8.Proofs.Store.Soundness

/-!
# Resets that fail

A reset has three parts: the store, the display, and the count of instructions with the
last of them.  Only the display can fail, and its turn is the second.  So a reset that
fails has reset the store already and never comes to the count (`LeftHalfway`).

The machine goes on from there with the first instruction of its program, and counts on
from the instructions before the reset.  Where the program then meets an unassigned word,
it names an instruction from before as the one that ran last.

A failed reset changes neither store nor count (`Spares`) where the store was fresh
already, and there alone.  That is all `failed_reset_halfway` leaves of an operation that
is done as a whole or not at all.
-/

namespace Chip8

/-- The store is as a reset leaves it. -/
def Store.IsFresh (s : Store) : Prop := s.memory = .image s.program ∧ s.registers = .initial

theorem Store.reset_eq_iff {s : Store} : s.reset = s ↔ s.IsFresh := by
  constructor
  · intro same
    exact ⟨(congrArg Store.memory same).symm, (congrArg Store.registers same).symm⟩
  · rintro ⟨memory, registers⟩
    rw [reset, ← memory, ← registers]

namespace Cpu

variable {δ : Type}

/-- Store, count and last instruction are those from before. -/
structure Spares (c d : Cpu δ) : Prop where
  store : d.store = c.store
  cycles : d.cycles = c.cycles
  last : d.last = c.last

variable [Display δ]

/-- A machine whose reset failed: its store was reset, and what is told of the instructions that
ran is from before. -/
structure LeftHalfway (c d : Cpu δ) : Prop where
  store : d.store = c.store.reset
  display : d.display = (Display.clear c.display).state
  cycles : d.cycles = c.cycles
  last : d.last = c.last
  keypad : d.keypad = c.keypad
  bell : d.bell = c.bell
  dialect : d.dialect = c.dialect
  random : d.random = c.random
  /-- The instructions from the entry point on are counted on top of those before. -/
  counted : ∀ n, d.Runs n → (d.after n).cycles = c.cycles + n
  /-- A word that is not assigned is told with an instruction from before. -/
  told : ∀ i, d.store.instruction = .ok i → i.decode? = none →
    d.step.result = .error (.fault (.unassigned i c.last))

variable {c : Cpu δ} {stop : Stop}

/-- A reset fails when the display cannot be cleared. -/
theorem reset_of_error (failed : (Display.clear c.display).result = .error stop) :
    c.reset.toAttempt =
      ⟨.error stop,
        { c with store := c.store.reset, display := (Display.clear c.display).state }⟩ := by
  rw [reset, failed]

theorem clear_of_failed_reset (failed : (c.perform .reset).result = .error stop) :
    (Display.clear c.display).result = .error stop := by
  rw [perform] at failed
  cases cleared : (Display.clear c.display).result with
  | error e =>
      rw [reset_of_error cleared] at failed
      cases failed
      rfl
  | ok done =>
      rw [reset, cleared] at failed
      cases failed

theorem state_of_failed_reset (failed : (c.perform .reset).result = .error stop) :
    (c.perform .reset).state =
      { c with store := c.store.reset, display := (Display.clear c.display).state } :=
  congrArg Attempt.state (reset_of_error (clear_of_failed_reset failed))

theorem leftHalfway_of_failed (failed : (c.perform .reset).result = .error stop) :
    c.LeftHalfway (c.perform .reset).state := by
  have state := state_of_failed_reset failed
  constructor
  case counted =>
    intro n runs
    rw [runs.cycles, state]
  case told =>
    intro i fetched unassigned
    rw [step, fetched]
    simp only [unassigned]
    rw [state]
  all_goals rw [state]

/-- A reset that fails does so at the display, and leaves a store that was reset beside a count
that was not.  It spares both where there was nothing to reset in the store, and only there. -/
theorem failed_reset_halfway (failed : (c.perform .reset).result = .error stop) :
    (Display.clear c.display).result = .error stop ∧
      c.LeftHalfway (c.perform .reset).state ∧
      (c.Spares (c.perform .reset).state ↔ c.store.IsFresh) := by
  have left := leftHalfway_of_failed failed
  refine ⟨clear_of_failed_reset failed, left, ?_⟩
  rw [← Store.reset_eq_iff, ← left.store]
  exact ⟨fun spares => spares.store, fun same => ⟨same, left.cycles, left.last⟩⟩

/-! ## A panel that stores too little -/

/-- Loads 5 into V0, over a panel that stores three of its eight pixels. -/
def fiveOnShortPanel : Cpu Panel :=
  .new ⟨.image [0x60, 0x05], .initial, [0x60, 0x05], .below255⟩ (.blank 4 2 3) 0

/-- The machine when its instruction has run. -/
def fiveLoaded : Cpu Panel :=
  { fiveOnShortPanel with
    store := (fiveOnShortPanel.store.put 0 5).withPc 0x202
    cycles := 1
    last := some ⟨0x60, 0x05⟩ }

theorem step_fiveOnShortPanel :
    fiveOnShortPanel.step.toAttempt = ⟨.ok (.loadByte 0 5), fiveLoaded⟩ := by
  have fetched : fiveOnShortPanel.store.instruction = .ok ⟨0x60, 0x05⟩ :=
    Store.instruction_of_image (k := 0) rfl rfl rfl rfl (by decide)
  have effect : fiveOnShortPanel.tickTimers.execute (.loadByte 0 5) =
      fiveOnShortPanel.tickTimers.thenNext
        ⟨.ok (), fiveOnShortPanel.tickTimers.store.put 0 5⟩ :=
    congrArg fiveOnShortPanel.tickTimers.thenNext
      (Store.setV_eq fiveOnShortPanel.tickTimers.store 5 (by decide))
  rw [step_of_thenNext ⟨fetched, rfl, rfl⟩ rfl effect rfl]
  rfl

/-- A reset over such a panel fails at the fourth pixel. -/
theorem reset_of_short_panel {m : Cpu Panel} (panel : m.display = .blank 4 2 3) :
    (m.perform .reset).result = .error (.fault (.addressOutOfRange 3)) := by
  have cleared : (Display.clear m.display).result = .error (.fault (.addressOutOfRange 3)) := by
    rw [panel]
    rfl
  rw [perform]
  exact congrArg (fun left => left.result.map fun () => Reply.done) (reset_of_error cleared)

/-- The reset fails, V0 is 0 again and PC at the entry point, and the machine still tells of the
instruction that loaded 5. -/
theorem reset_forgets_five :
    fiveOnShortPanel.step.toAttempt = ⟨.ok (.loadByte 0 5), fiveLoaded⟩ ∧
      (fiveLoaded.perform .reset).result = .error (.fault (.addressOutOfRange 3)) ∧
      (fiveLoaded.store.getV 0 = .ok 5 ∧
        (fiveLoaded.perform .reset).state.store.getV 0 = .ok 0) ∧
      (fiveLoaded.store.registers.pc = 0x202 ∧
        (fiveLoaded.perform .reset).state.store.registers.pc = 0x200) ∧
      (fiveLoaded.perform .reset).state.cycles = 1 ∧
      (fiveLoaded.perform .reset).state.last = some ⟨0x60, 0x05⟩ ∧
      ¬ fiveLoaded.Spares (fiveLoaded.perform .reset).state := by
  have failed := reset_of_short_panel (m := fiveLoaded) rfl
  have left := leftHalfway_of_failed failed
  have zero : (fiveLoaded.perform .reset).state.store.getV 0 = .ok 0 := by
    rw [left.store]
    rfl
  refine ⟨step_fiveOnShortPanel, failed, ⟨rfl, zero⟩, ⟨rfl, ?_⟩, left.cycles, left.last, ?_⟩
  · rw [left.store]
    rfl
  · intro spares
    rw [spares.store] at zero
    cases zero

/-- The next reset fails too, and has nothing left to change. -/
theorem second_reset_spares :
    ((fiveLoaded.perform .reset).state.perform .reset).result =
        .error (.fault (.addressOutOfRange 3)) ∧
      (fiveLoaded.perform .reset).state.Spares
        ((fiveLoaded.perform .reset).state.perform .reset).state := by
  have left := leftHalfway_of_failed (reset_of_short_panel (m := fiveLoaded) rfl)
  have panel : (fiveLoaded.perform .reset).state.display = .blank 4 2 3 := by
    rw [left.display]
    rfl
  have failed := reset_of_short_panel panel
  obtain ⟨-, -, spares⟩ := failed_reset_halfway failed
  refine ⟨failed, spares.mpr ?_⟩
  rw [left.store]
  exact ⟨rfl, rfl⟩

end Cpu

end Chip8
