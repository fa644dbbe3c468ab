import Chip8.Cpu.Request
import Chip8.Proofs.Cpu.Ticking

/-!
# Ringing

A machine rings its bell and never looks at it.  So two machines that differ in
their bells alone answer every request alike, cause the same events, and differ in
their bells alone afterwards, each of which has rung the same number of times
meanwhile (`rings_perform`, `rings_performAll`).

Executing an instruction does not ring (`execute_withBell`).  Only the tick of the
timers does.
-/

namespace Chip8

/-! ## Views of a state -/

/-- An outcome that left another state. -/
def Outcome.mapState {σ τ α : Type} (o : Outcome σ α) (view : σ → τ) : Outcome τ α :=
  ⟨o.toAttempt.mapState view, o.events⟩

/-- The bell after it rang so many times. -/
def Bell.rung (b : Bell) : Nat → Bell
  | 0 => b
  | n + 1 => (b.rung n).ring

theorem Bell.rung_add (b : Bell) (m n : Nat) : b.rung (m + n) = (b.rung m).rung n := by
  induction n with
  | zero => rfl
  | succ n ih => exact congrArg Bell.ring ih

namespace Cpu

variable {δ : Type}

/-- The machine with another bell. -/
def withBell (c : Cpu δ) (bell : Bell) : Cpu δ := { c with bell }

theorem withStore_withBell {α : Type} (c : Cpu δ) (bell : Bell) (a : Attempt Fault Store α) :
    (c.withBell bell).withStore a = (c.withStore a).mapState (·.withBell bell) := rfl

theorem withKeypad_withBell (c : Cpu δ) (bell : Bell) (a : Attempt Fault Keypad Unit) :
    (c.withBell bell).withKeypad a = (c.withKeypad a).mapState (·.withBell bell) := rfl

/-- How often the tick of the timers rings. -/
def ringsOfTick (c : Cpu δ) : Nat := if c.store.registers.sound = 0 then 0 else 1

theorem tickTimers_withBell (c : Cpu δ) (bell : Bell) :
    (c.withBell bell).tickTimers = c.tickTimers.withBell (bell.rung c.ringsOfTick) := by
  dsimp only [tickTimers, ringsOfTick, withBell]
  split
  · rfl
  · rfl

/-! ## Executing -/

variable [Display δ]

theorem draw_withBell (c : Cpu δ) (bell : Bell) (x y rows : UInt8) :
    (c.withBell bell).draw x y rows = (c.draw x y rows).mapState (·.withBell bell) := by
  rw [draw, draw, show (c.withBell bell).spriteDots x y rows = c.spriteDots x y rows from rfl]
  cases c.spriteDots x y rows with
  | error e => rfl
  | ok dots =>
      dsimp only [withBell]
      generalize Display.blit c.dialect.collision c.display false dots = drawn
      obtain ⟨result, display⟩ := drawn
      cases result with
      | error f => rfl
      | ok hit => exact withStore_withBell { c with display } bell _

/-- No instruction looks at the bell or rings it. -/
theorem execute_withBell (c : Cpu δ) (bell : Bell) (op : Opcode) :
    (c.withBell bell).execute op = (c.execute op).mapState (·.withBell bell) := by
  cases op with
  | draw x y rows => exact draw_withBell c bell x y rows
  | _ => rfl

theorem executeAndMove_withBell (c : Cpu δ) (bell : Bell) (op : Opcode) :
    (c.withBell bell).executeAndMove op =
      (c.executeAndMove op).mapState (·.withBell bell) := by
  rw [executeAndMove, executeAndMove, execute_withBell]
  generalize c.execute op = executed
  obtain ⟨result, c'⟩ := executed
  cases result with
  | error e => rfl
  | ok flow => exact withStore_withBell c' bell _

/-! ## Steps -/

theorem rings_runDecoded (c : Cpu δ) (i : Instruction) (op : Opcode) :
    ∃ count, ∀ bell,
      (c.withBell bell).runDecoded i op =
        (c.runDecoded i op).mapState (·.withBell (bell.rung count)) := by
  have same (bell : Bell) : (c.withBell bell).store.registers.pc = c.store.registers.pc := rfl
  cases placed : checkFallThrough c.store.registers.pc op with
  | error f =>
      refine ⟨0, fun bell => ?_⟩
      simp only [runDecoded, same, placed]
      rfl
  | ok u =>
      refine ⟨c.ringsOfTick, fun bell => ?_⟩
      simp only [runDecoded_eq, same, placed, tickTimers_withBell, executeAndMove_withBell]
      generalize c.tickTimers.executeAndMove op = moved
      obtain ⟨result, c'⟩ := moved
      cases result with
      | error e => rfl
      | ok u => rfl

/-- A step rings the same number of times whatever the bell, and is the same otherwise. -/
theorem rings_step (c : Cpu δ) :
    ∃ count, ∀ bell, (c.withBell bell).step = c.step.mapState (·.withBell (bell.rung count)) := by
  have same (bell : Bell) : (c.withBell bell).store = c.store := rfl
  cases fetched : c.store.instruction with
  | error f =>
      refine ⟨0, fun bell => ?_⟩
      simp only [step, same, fetched]
      rfl
  | ok i =>
      cases decoded : i.decode? with
      | none =>
          refine ⟨0, fun bell => ?_⟩
          simp only [step, same, fetched, decoded]
          rfl
      | some op =>
          obtain ⟨count, ran⟩ := rings_runDecoded c i op
          refine ⟨count, fun bell => ?_⟩
          simp only [step, same, fetched, decoded, ran]
          rfl

theorem rings_steps (c : Cpu δ) (n : Nat) :
    ∃ count, ∀ bell,
      (c.withBell bell).steps n = (c.steps n).mapState (·.withBell (bell.rung count)) := by
  induction n generalizing c with
  | zero => exact ⟨0, fun bell => rfl⟩
  | succ n ih =>
      obtain ⟨first, stepped⟩ := rings_step c
      cases result : c.step.result with
      | error e =>
          refine ⟨first, fun bell => ?_⟩
          have failed : (c.withBell bell).step.result = .error e := by
            rw [stepped]
            exact result
          rw [steps_succ_of_error result, steps_succ_of_error failed, stepped]
          rfl
      | ok op =>
          obtain ⟨rest, ran⟩ := ih c.step.state
          refine ⟨first + rest, fun bell => ?_⟩
          have done : (c.withBell bell).step.result = .ok op := by
            rw [stepped]
            exact result
          have later : (c.withBell bell).step.state.steps n =
              (c.step.state.steps n).mapState (·.withBell ((bell.rung first).rung rest)) := by
            rw [stepped]
            exact ran _
          rw [steps_succ_of_ok result, steps_succ_of_ok done, later, stepped, Bell.rung_add]
          rfl

/-! ## Requests -/

theorem reset_withBell (c : Cpu δ) (bell : Bell) :
    (c.withBell bell).reset = c.reset.mapState (·.withBell bell) := by
  rw [reset, reset]
  dsimp only [withBell]
  generalize Display.clear c.display = cleared
  obtain ⟨result, display⟩ := cleared
  cases result with
  | error f => rfl
  | ok u => rfl

/-- A request rings the same number of times whatever the bell, and is the same otherwise. -/
theorem rings_perform (c : Cpu δ) (r : Request) :
    ∃ count, ∀ bell,
      (c.withBell bell).perform r = (c.perform r).mapState (·.withBell (bell.rung count)) := by
  cases r with
  | step =>
      obtain ⟨count, stepped⟩ := rings_step c
      refine ⟨count, fun bell => ?_⟩
      simp only [perform, stepped bell]
      rfl
  | batch n =>
      obtain ⟨count, ran⟩ := rings_steps c n
      refine ⟨count, fun bell => ?_⟩
      simp only [perform, runBatch, ran bell]
      rfl
  | press key => exact ⟨0, fun bell => withKeypad_withBell c bell _⟩
  | release key => exact ⟨0, fun bell => withKeypad_withBell c bell _⟩
  | releaseAll => exact ⟨0, fun bell => withKeypad_withBell c bell _⟩
  | setDialect dialect => exact ⟨0, fun bell => rfl⟩
  | setPixel offset value => exact ⟨0, fun bell => rfl⟩
  | reset =>
      refine ⟨0, fun bell => ?_⟩
      simp only [perform, reset_withBell c bell]
      rfl

/-- What the owner and an observer are told while some requests are carried out. -/
def transcript (c : Cpu δ) : List Request → List (Except Stop Reply × List Event)
  | [] => []
  | r :: rs => ((c.perform r).result, (c.perform r).events) :: (c.perform r).state.transcript rs

/-- Requests are answered alike whatever the bell, and leave machines that differ in their bells
alone, each of which rang the same number of times. -/
theorem rings_performAll (c : Cpu δ) (requests : List Request) :
    ∃ count, ∀ bell, (c.withBell bell).transcript requests = c.transcript requests ∧
      (c.withBell bell).performAll requests =
        (c.performAll requests).withBell (bell.rung count) := by
  induction requests generalizing c with
  | nil => exact ⟨0, fun bell => ⟨rfl, rfl⟩⟩
  | cons r requests ih =>
      obtain ⟨first, performed⟩ := rings_perform c r
      obtain ⟨rest, later⟩ := ih (c.perform r).state
      refine ⟨first + rest, fun bell => ?_⟩
      obtain ⟨told, left⟩ := later (bell.rung first)
      constructor
      · rw [transcript, transcript, performed]
        exact congrArg _ told
      · rw [performAll_cons, performAll_cons, performed, Bell.rung_add]
        exact left

end Cpu

end Chip8
