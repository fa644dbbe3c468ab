import Chip8.Cpu.Request
import Chip8.Proofs.Cpu.Batch
import Chip8.Proofs.Store.Soundness

/-!
# Crashes

A program can crash its machine in one place.  A sprite of no rows has no bytes, and
the check of a span lets it pass wherever I points, but beyond the end of memory there
is no place to take the bytes from.  Besides, a reset crashes with the display, which
may have more pixels than a word can count.  A frame buffer never does.

`step_crash_iff` says that no other instruction crashes, and `perform_crash_iff`
says exactly which requests crash which machines, with no condition on the machine.
-/

namespace Chip8.Cpu

variable {δ : Type}

/-! ## Executions -/

theorem map_crash_iff {α β : Type} {g : α → β} {e : Except Stop α} :
    e.map g = .error .crash ↔ e = .error .crash := by
  cases e with
  | error stop =>
      constructor
      · intro crashed
        cases crashed
        rfl
      · intro crashed
        cases crashed
        rfl
  | ok a => exact ⟨nofun, nofun⟩

/-- A fault is not a crash. -/
theorem ofFault_ne_crash {α : Type} (e : Except Fault α) : Stop.ofFault e ≠ .error .crash := by
  cases e with
  | error f => exact nofun
  | ok a => exact nofun

theorem withStore_ne_crash {α : Type} (c : Cpu δ) (a : Attempt Fault Store α) :
    (c.withStore a).result ≠ .error .crash := ofFault_ne_crash _

theorem going_ne_crash (c : Cpu δ) (flow : Except Fault Flow) :
    (c.going flow).result ≠ .error .crash := ofFault_ne_crash _

theorem withKeypad_ne_crash {c : Cpu δ} (a : Attempt Fault Keypad Unit) :
    (c.withKeypad a).result ≠ .error .crash :=
  fun crashed => ofFault_ne_crash _ (map_crash_iff.mp crashed)

section
variable [Display δ] (c : Cpu δ)

theorem draw_crash_iff {x y : UInt8} (hx : x.toNat < 16) (hy : y.toNat < 16) (rows : UInt8) :
    (c.draw x y rows).result = .error .crash ↔ rows = 0 ∧ 4096 < c.store.registers.i.toNat := by
  rw [← UInt8.toNat_inj, UInt8.toNat_zero,
    ← Memory.slice_crash_iff (m := c.store.memory) (n := rows.toNat), draw, spriteDots_eq c hx hy]
  cases c.store.memory.slice c.store.registers.i.toNat rows.toNat with
  | error e =>
      cases e with
      | crash => exact ⟨fun _ => rfl, fun _ => rfl⟩
      | fault f => exact iff_of_false (by simp) (by simp)
  | ok bytes =>
      refine iff_of_false (fun crashed => ?_) (by simp)
      dsimp only at crashed
      by_cases empty : Display.width c.display = 0 ∨ Display.height c.display = 0
      · rw [if_pos empty] at crashed
        cases crashed
      · rw [if_neg empty] at crashed
        dsimp only at crashed
        split at crashed
        next => cases crashed
        next => exact absurd crashed (withStore_ne_crash _ _)

/-- The one opcode that can crash draws no rows from beyond the end of memory. -/
theorem execute_crash_iff {op : Opcode} (inRange : op.InRange) :
    (c.execute op).result = .error .crash ↔
      (∃ x y, op = .draw x y 0) ∧ 4096 < c.store.registers.i.toNat := by
  cases op with
  | draw x y rows =>
      rw [execute, draw_crash_iff c inRange.1 inRange.2.1]
      simp
  | jump _ | skipIfByte _ _ | skipUnlessByte _ _ | skipIfSame _ _ | skipIfKeyUp _ =>
      refine iff_of_false (going_ne_crash c _) ?_
      rintro ⟨⟨x, y, same⟩, -⟩
      cases same
  | _ =>
      refine iff_of_false (withStore_ne_crash _ _) ?_
      rintro ⟨⟨x, y, same⟩, -⟩
      cases same

end

/-! ## Steps -/

variable [Display δ] {c : Cpu δ}

/-- Moving PC never crashes. -/
theorem executeAndMove_crash_iff {op : Opcode} :
    (c.executeAndMove op).result = .error .crash ↔ (c.execute op).result = .error .crash := by
  cases done : (c.execute op).result with
  | error e =>
      rw [executeAndMove_of_error done]
      exact map_crash_iff (e := (.error e : Except Stop Flow)) (g := fun _ => ())
  | ok flow =>
      refine ⟨fun crashed => ?_, nofun⟩
      obtain ⟨pc, -, moved⟩ | ⟨f, -, stuck⟩ := executeAndMove_cases done
      · rw [moved] at crashed
        cases crashed
      · rw [stuck] at crashed
        cases crashed

/-- The instruction at PC is not the last one, and draws a sprite of no rows from beyond the end of
memory. -/
structure DrawsBeyond (c : Cpu δ) : Prop where
  drawing : ∃ i x y, c.store.instruction = .ok i ∧ i.decode? = some (.draw x y 0)
  placed : CodeAddress.Valid (c.store.registers.pc.toNat + 2)
  beyond : 4096 < c.store.registers.i.toNat

/-- The result of an instruction that has its place. -/
theorem runDecoded_result {i : Instruction} {op : Opcode}
    (placed : checkFallThrough c.store.registers.pc op = .ok ()) :
    (c.runDecoded i op).result = (c.tickTimers.executeAndMove op).result.map fun _ => op := by
  rw [runDecoded_eq, placed]
  dsimp only [Attempt.andThen]
  cases (c.tickTimers.executeAndMove op).result with
  | error e => rfl
  | ok u => rfl

theorem runDecoded_crash_iff {i : Instruction} {op : Opcode} (inRange : op.InRange) :
    (c.runDecoded i op).result = .error .crash ↔
      (∃ x y, op = .draw x y 0) ∧ CodeAddress.Valid (c.store.registers.pc.toNat + 2) ∧
        4096 < c.store.registers.i.toNat := by
  cases placed : checkFallThrough c.store.registers.pc op with
  | error f =>
      rw [runDecoded]
      simp only [placed]
      refine iff_of_false (by simp) ?_
      rintro ⟨⟨x, y, rfl⟩, valid, -⟩
      rw [checkFallThrough_eq_ok_iff.mpr (.inr valid)] at placed
      cases placed
  | ok u =>
      have valid := checkFallThrough_eq_ok_iff.mp placed
      rw [runDecoded_result placed, map_crash_iff, executeAndMove_crash_iff,
        execute_crash_iff _ inRange]
      constructor
      · rintro ⟨⟨x, y, rfl⟩, beyond⟩
        exact ⟨⟨x, y, rfl⟩, valid.resolve_left Bool.false_ne_true, beyond⟩
      · rintro ⟨drawing, -, beyond⟩
        exact ⟨drawing, beyond⟩

/-- A step crashes on a sprite of no rows from beyond the end of memory, and on nothing else. -/
theorem step_crash_iff : c.step.result = .error .crash ↔ c.DrawsBeyond := by
  cases fetched : c.store.instruction with
  | error f =>
      rw [step]
      simp only [fetched]
      refine iff_of_false (by simp) ?_
      rintro ⟨⟨i, x, y, same, -⟩, -⟩
      rw [fetched] at same
      cases same
  | ok i =>
      cases decoded : i.decode? with
      | none =>
          rw [step]
          simp only [fetched, decoded]
          refine iff_of_false (by simp) ?_
          rintro ⟨⟨i', x, y, same, drawn⟩, -⟩
          obtain rfl := Except.ok.inj (fetched.symm.trans same)
          rw [decoded] at drawn
          cases drawn
      | some op =>
          rw [step_of_decoded fetched decoded,
            runDecoded_crash_iff (Instruction.inRange_of_decode? decoded)]
          constructor
          · rintro ⟨⟨x, y, rfl⟩, placed, beyond⟩
            exact ⟨⟨i, x, y, fetched, decoded⟩, placed, beyond⟩
          · rintro ⟨⟨i', x, y, same, drawn⟩, placed, beyond⟩
            obtain rfl := Except.ok.inj (fetched.symm.trans same)
            obtain rfl := Option.some.inj (decoded.symm.trans drawn)
            exact ⟨⟨x, y, rfl⟩, placed, beyond⟩

/-! ## Requests -/

/-- The requests that crash a machine: a step onto such a sprite, a batch that comes to one, and a
reset of a display that crashes when it is cleared. -/
def CrashesOn (c : Cpu δ) : Request → Prop
  | .step => c.DrawsBeyond
  | .batch count => ∃ k < count, c.Runs k ∧ (c.after k).DrawsBeyond
  | .reset => (Display.clear c.display).result = .error .crash
  | _ => False

theorem runBatch_crash_iff {count : Nat} :
    (c.runBatch count).result = .error .crash ↔
      ∃ k < count, c.Runs k ∧ (c.after k).DrawsBeyond := by
  rw [runBatch, map_crash_iff, steps_error_iff]
  constructor
  · rintro ⟨k, hk, runs, crashed⟩
    exact ⟨k, hk, runs, step_crash_iff.mp crashed⟩
  · rintro ⟨k, hk, runs, beyond⟩
    exact ⟨k, hk, runs, step_crash_iff.mpr beyond⟩

theorem reset_crash_iff :
    c.reset.result = .error .crash ↔ (Display.clear c.display).result = .error .crash := by
  rw [reset]
  cases (Display.clear c.display).result with
  | error stop => rfl
  | ok u => exact ⟨nofun, nofun⟩

theorem perform_step_crash_iff : (c.perform .step).result = .error .crash ↔ c.DrawsBeyond :=
  map_crash_iff.trans step_crash_iff

theorem crash_iff_crashesOn (c : Cpu δ) (r : Request) :
    (c.perform r).result = .error .crash ↔ c.CrashesOn r := by
  cases r with
  | step => exact perform_step_crash_iff
  | batch count => exact map_crash_iff.trans runBatch_crash_iff
  | press key => exact ⟨withKeypad_ne_crash _, nofun⟩
  | release key => exact ⟨withKeypad_ne_crash _, nofun⟩
  | releaseAll => exact ⟨withKeypad_ne_crash _, nofun⟩
  | setDialect dialect => exact ⟨nofun, nofun⟩
  | setPixel offset value =>
      refine ⟨fun crashed => ?_, nofun⟩
      exact ofFault_ne_crash _ (map_crash_iff.mp crashed)
  | reset => exact map_crash_iff.trans reset_crash_iff

/-- A request crashes a machine in these cases and in no other.  Over a frame buffer a reset is
not among them. -/
theorem perform_crash_iff (c : Cpu δ) (r : Request) :
    ((c.perform r).result = .error .crash ↔ c.CrashesOn r) ∧
      ∀ buffered : Cpu FrameBuffer, ¬ buffered.CrashesOn .reset :=
  ⟨crash_iff_crashesOn c r, fun _ => nofun⟩

/-! ## A program that crashes -/

/-- Points I at the last byte of memory, adds 255 to it, and draws a sprite of no rows. -/
def emptySprite : List UInt8 := [0xAF, 0xFF, 0x60, 0xFF, 0xF0, 0x1E, 0xD0, 0x00]

/-- The store of that program. -/
def emptySpriteStore : Store := ⟨.image emptySprite, .initial, emptySprite, .below255⟩

/-- The machine has come to a place in that program. -/
structure InEmptySprite (c : Cpu FrameBuffer) (k : Nat) : Prop where
  image : c.store.memory = .image emptySprite
  pc : c.store.registers.pc.toNat = Memory.entryPoint + k

/-- An instruction of that program that only changes registers. -/
theorem InEmptySprite.step {c : Cpu FrameBuffer} {k : Nat} (place : InEmptySprite c k)
    {high low : UInt8} {op : Opcode} (first : emptySprite[k]? = some high)
    (second : emptySprite[k + 1]? = some low) (inside : k < 6) (even : k % 2 = 0)
    (decoded : (⟨high, low⟩ : Instruction).decode? = some op) (falls : op.branches = false)
    {s : Store} (effect : c.tickTimers.execute op = c.tickTimers.thenNext ⟨.ok (), s⟩)
    (memory : s.memory = c.store.memory) (pc : s.registers.pc = c.store.registers.pc) :
    InEmptySprite (c.perform .step).state (k + 2) ∧
      (c.perform .step).state.store.value 0 = s.value 0 ∧
      (c.perform .step).state.store.registers.i = s.registers.i := by
  have next : CodeAddress.Valid (Memory.entryPoint + k + 2) := by
    unfold Memory.entryPoint CodeAddress.Valid
    omega
  have fetched := Store.instruction_of_image place.image place.pc first second (by decide)
  have placed : checkFallThrough c.store.registers.pc op = .ok () := by
    rw [checkFallThrough_eq_ok_iff, place.pc]
    exact .inr next
  have left : (c.perform .step).state.store = s.withPc (.ofNat (Memory.entryPoint + k + 2)) := by
    change c.step.toAttempt.state.store = _
    rw [step_of_thenNext ⟨fetched, decoded, placed⟩ falls effect pc, place.pc]
  refine ⟨⟨?_, ?_⟩, ?_, ?_⟩
  · rw [left]
    exact memory.trans place.image
  · rw [left]
    exact Nat.mod_eq_of_lt (Nat.lt_trans next.1 (show 4096 < UInt16.size by decide))
  · rw [left]
    rfl
  · rw [left]
    rfl

/-- Three steps into that program, I stands beyond the end of memory and a sprite of no rows is
next. -/
theorem drawsBeyond_emptySprite {c : Cpu FrameBuffer} (start : InEmptySprite c 0) :
    (c.performAll [.step, .step, .step]).DrawsBeyond := by
  -- LD I, 0xFFF
  obtain ⟨place₁, -, i₁⟩ := start.step rfl rfl (by decide) rfl
    (show _ = some (Opcode.loadIndex 0xFFF) by decide) rfl rfl rfl rfl
  rw [performAll_cons]
  generalize (c.perform .step).state = c₁ at place₁ i₁
  -- LD V0, 255
  have load : c₁.tickTimers.execute (.loadByte 0 0xFF) =
      c₁.tickTimers.thenNext ⟨.ok (), c₁.tickTimers.store.put 0 0xFF⟩ := by
    rw [execute, Store.setV_eq _ _ (by decide), UInt8.toUInt8_toUInt16]
  obtain ⟨place₂, v₂, i₂⟩ := place₁.step rfl rfl (by decide) rfl
    (show _ = some (Opcode.loadByte 0 0xFF) by decide) rfl load rfl rfl
  rw [performAll_cons]
  generalize (c₁.perform .step).state = c₂ at place₂ v₂ i₂
  rw [Store.value_put _ _ (by decide), if_pos rfl] at v₂
  -- ADD I, V0
  have add : c₂.tickTimers.execute (.addIndex 0) = c₂.tickTimers.thenNext
      ⟨.ok (), c₂.tickTimers.store.setI (c₂.store.registers.i + (c₂.store.value 0).toUInt16)⟩ := by
    rw [execute, Store.addIndex_eq (by decide)]
    rfl
  obtain ⟨place₃, -, i₃⟩ := place₂.step rfl rfl (by decide) rfl
    (show _ = some (Opcode.addIndex 0) by decide) rfl add rfl rfl
  rw [performAll_cons, performAll_nil]
  generalize (c₂.perform .step).state = c₃ at place₃ i₃
  have index : c₃.store.registers.i = 0x10FE := by
    change _ = c₂.store.registers.i + (c₂.store.value 0).toUInt16 at i₃
    change _ = c₁.store.registers.i at i₂
    rw [i₃, i₂, v₂, i₁]
    rfl
  have fetched : c₃.store.instruction = .ok ⟨0xD0, 0x00⟩ :=
    Store.instruction_of_image place₃.image place₃.pc rfl rfl (by decide)
  refine ⟨⟨_, 0, 0, fetched, by decide⟩, ?_, ?_⟩
  · rw [place₃.pc]
    decide
  · rw [index]
    decide

/-- Not every machine over an accepted program and a plane with pixels is safe from crashes. -/
theorem crash_on_empty_sprite :
    ¬ ∀ (program : List UInt8) (loaded : Store), Store.ofProgram? program = .ok loaded →
        ∀ (display : FrameBuffer), 1 ≤ display.width → 1 ≤ display.height →
        ∀ (seed : UInt64) (requests : List Request) (r : Request),
        (((Cpu.new loaded display seed).performAll requests).perform r).result ≠ .error .crash := by
  intro safe
  have accepted : Store.ofProgram? emptySprite = .ok emptySpriteStore := rfl
  have start : InEmptySprite (.new emptySpriteStore (.blank 64 32) 0) 0 := ⟨rfl, rfl⟩
  exact safe _ _ accepted (.blank 64 32) (by decide) (by decide) 0 [.step, .step, .step] .step
    (perform_step_crash_iff.mpr (drawsBeyond_emptySprite start))

end Chip8.Cpu
