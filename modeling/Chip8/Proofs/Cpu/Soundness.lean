import Chip8.Cpu.Request
import Chip8.Proofs.Cpu.Stepping
import Chip8.Proofs.Store.Soundness

/-!
# Sound machines

A machine is sound when its store is, and when the bound on timer values in its
store is the one of its dialect.  A new machine over a sound store is sound, and
every request leaves it sound (`Sound.perform`), whether it succeeds or fails.

`Reachable` gathers the machines that an owner can come to.  They are all sound
(`Reachable.sound`).

The display is not the machine's own.  A request keeps what every set and every
clear of the display keeps (`keeps_display_perform`).  A frame buffer so keeps its
size, and `invariant_of_history` puts together what holds of a machine over a frame
buffer.
-/

namespace Chip8.Cpu

variable {δ : Type}

/-- The store is sound, and both bounds on timer values agree. -/
structure Sound (c : Cpu δ) : Prop where
  store : c.store.Sound
  bound : c.store.timerBound = c.dialect.timerBound

theorem Sound.setDialect {c : Cpu δ} (sound : c.Sound) (dialect : Dialect) :
    (c.setDialect dialect).Sound :=
  ⟨sound.store.setTimerBound _, rfl⟩

theorem Sound.new {s : Store} (sound : s.Sound) (display : δ) (seed : UInt64) :
    (Cpu.new s display seed).Sound :=
  ⟨sound.setTimerBound _, rfl⟩

theorem Sound.tickTimers {c : Cpu δ} (sound : c.Sound) : c.tickTimers.Sound :=
  ⟨sound.store.tickTimers, sound.bound⟩

theorem Sound.of_keeps {c c' : Cpu δ} (sound : c.Sound) (keeps : Keeps c c')
    (stack : c'.store.registers.stack = c.store.registers.stack) : c'.Sound where
  store := sound.store.of_same keeps.pc stack
  bound := by
    rw [keeps.timerBound, keeps.dialect]
    exact sound.bound

theorem Sound.withKeypad {c : Cpu δ} (sound : c.Sound) (a : Attempt Fault Keypad Unit) :
    (c.withKeypad a).state.Sound := ⟨sound.store, sound.bound⟩

variable [Display δ] {c : Cpu δ}

/-! ## Steps -/

theorem Executed.sound {op : Opcode} {a : Attempt Stop (Cpu δ) Flow}
    (execution : Executed c op a) (sound : c.Sound) : a.state.Sound := by
  cases execution with
  | failed => exact sound
  | broken => exact ⟨sound.store, sound.bound⟩
  | next _ keeps stack => exact sound.of_keeps keeps stack
  | skip => exact sound
  | jump => exact sound
  | call _ _ pushed => exact ⟨sound.store.push pushed, sound.bound⟩
  | ret => exact ⟨sound.store.drop, sound.bound⟩

theorem Stepped.sound {a : Attempt Stop (Cpu δ) Opcode} (h : Stepped c a) (sound : c.Sound) :
    a.state.Sound := by
  cases h with
  | unfetched => exact sound
  | unassigned => exact sound
  | unplaced => exact sound
  | failed _ execution => exact execution.sound sound.tickTimers
  | ran _ execution valid =>
      have moved := execution.sound sound.tickTimers
      exact ⟨moved.store.withPc valid, moved.bound⟩

/-- A property that every step keeps holds after any number of them. -/
theorem steps_induction {P : Cpu δ → Prop} (kept : ∀ c, P c → P c.step.state) (start : P c)
    (count : Nat) : P (c.steps count).state := by
  induction count generalizing c with
  | zero => exact start
  | succ n ih =>
      cases stepped : c.step.result with
      | error e =>
          rw [steps_succ_of_error stepped]
          exact kept c start
      | ok op =>
          rw [steps_succ_of_ok stepped]
          exact ih (kept c start)

/-! ## Requests -/

/-- A reset writes the store afresh, whatever becomes of the display. -/
theorem store_reset (c : Cpu δ) : c.reset.state.store = c.store.reset := by
  rw [Cpu.reset]
  split
  · rfl
  · rfl

theorem Sound.reset (sound : c.Sound) : c.reset.state.Sound := by
  have store : c.store.reset.Sound := .of_initial rfl
  rw [Cpu.reset]
  split
  · exact ⟨store, sound.bound⟩
  · exact ⟨store, sound.bound⟩

/-- No request makes a machine unsound, whatever comes of it. -/
theorem Sound.perform (sound : c.Sound) (r : Request) : (c.perform r).state.Sound := by
  cases r with
  | step => exact (stepped c).sound sound
  | batch count =>
      exact steps_induction (P := Sound) (fun c sound => (stepped c).sound sound) sound count
  | press key => exact sound.withKeypad _
  | release key => exact sound.withKeypad _
  | releaseAll => exact sound.withKeypad _
  | setDialect dialect => exact sound.setDialect dialect
  | setPixel offset value => exact ⟨sound.store, sound.bound⟩
  | reset => exact sound.reset

/-- A property that every request keeps holds after any list of them. -/
theorem performAll_induction {P : Cpu δ → Prop} (kept : ∀ c r, P c → P (c.perform r).state)
    (start : P c) (requests : List Request) : P (c.performAll requests) := by
  induction requests generalizing c with
  | nil => exact start
  | cons r requests ih => exact ih (kept c r start)

theorem Sound.performAll (sound : c.Sound) (requests : List Request) :
    (c.performAll requests).Sound :=
  performAll_induction (fun _ r sound => sound.perform r) sound requests

/-! ## Reachable machines -/

/-- A machine that an owner can come to: a new one over a store with any history, one that
carried out a request, and one whose devices the owner changed. -/
inductive Reachable : Cpu δ → Prop where
  | new {program : List UInt8} {loaded : Store}
      (accepted : Store.ofProgram? program = .ok loaded) (ops : List Store.Operation)
      (display : δ) (seed : UInt64) : Reachable (Cpu.new (loaded.performAll ops) display seed)
  | perform {c : Cpu δ} (reachable : Reachable c) (r : Request) : Reachable (c.perform r).state
  | devices {c : Cpu δ} (reachable : Reachable c) (display : δ) (keypad : Keypad) (bell : Bell) :
      Reachable { c with display, keypad, bell }

theorem Reachable.sound (reachable : c.Reachable) : c.Sound := by
  induction reachable with
  | new accepted ops display seed =>
      exact .new ((Store.Sound.ofProgram? accepted).performAll ops) display seed
  | perform _ r sound => exact sound.perform r
  | devices _ _ _ _ sound => exact ⟨sound.store, sound.bound⟩

/-! ## The display -/

section
variable {P : δ → Prop}
  (set : ∀ d o value, P d → P (Display.set d o value).state)
  (clear : ∀ d, P d → P (Display.clear d).state)

include set in
theorem keeps_display_step (good : P c.display) : P c.step.state.display := by
  have drawn {op : Opcode} {a : Attempt Stop (Cpu δ) Flow} (execution : Executed c.tickTimers op a) :
      P a.state.display := by
    obtain ⟨dots, -, display⟩ := execution.display
    rw [display]
    exact Display.blit_keeps set good
  have h := stepped c
  change P c.step.toAttempt.state.display
  generalize c.step.toAttempt = a at h
  cases h with
  | unfetched => exact good
  | unassigned => exact good
  | unplaced => exact good
  | failed _ execution => exact drawn execution
  | ran _ execution _ => exact drawn execution

include set clear in
theorem keeps_display_perform (good : P c.display) (r : Request) :
    P (c.perform r).state.display := by
  cases r with
  | step => exact keeps_display_step set good
  | batch count =>
      exact steps_induction (P := fun c => P c.display) (fun c => keeps_display_step set) good
        count
  | press key => exact good
  | release key => exact good
  | releaseAll => exact good
  | setDialect dialect => exact good
  | setPixel offset value => exact set _ _ _ good
  | reset =>
      change P c.reset.state.display
      rw [Cpu.reset]
      split
      · exact clear _ good
      · exact clear _ good

include set clear in
theorem keeps_display_performAll (good : P c.display) (requests : List Request) :
    P (c.performAll requests).display :=
  performAll_induction (P := fun c => P c.display)
    (fun _ r good => keeps_display_perform set clear good r) good requests

end

/-! ## Frame buffers -/

/-- What holds of a machine over a frame buffer of some size, whatever was done to it. -/
structure Invariant (c : Cpu FrameBuffer) (width height : Nat) : Prop where
  pc : CodeAddress.Valid c.store.registers.pc.toNat
  depth : c.store.registers.stack.frames.length ≤ 16
  frames : ∀ a ∈ c.store.registers.stack.frames, CodeAddress.Valid a.toNat
  size : c.display.width = width ∧ c.display.height = height
  pixels : ∀ o < width * height, c.display.get o = .ok 0 ∨ c.display.get o = .ok 1
  outside : ∀ o, width * height ≤ o → c.display.get o = .error (.addressOutOfRange o)
  bound : c.store.timerBound = c.dialect.timerBound
  fetch : ∃ i, c.store.instruction = .ok i

theorem size_performAll (c : Cpu FrameBuffer) (requests : List Request) :
    (c.performAll requests).display.width = c.display.width ∧
      (c.performAll requests).display.height = c.display.height := by
  refine keeps_display_performAll (c := c)
    (P := fun f => f.width = c.display.width ∧ f.height = c.display.height) ?_ ?_ ⟨rfl, rfl⟩
    requests
  · intro f o value ⟨hw, hh⟩
    have size := f.size_set o value
    exact ⟨size.1.trans hw, size.2.trans hh⟩
  · intro f size
    exact size

theorem invariant_of_sound {c : Cpu FrameBuffer} (sound : c.Sound) {width height : Nat}
    (hw : c.display.width = width) (hh : c.display.height = height) :
    c.Invariant width height where
  pc := sound.store.pc
  depth := ReturnStack.length_frames_le _
  frames := sound.store.frames
  size := ⟨hw, hh⟩
  pixels := by
    intro o ho
    have inside : o < c.display.width * c.display.height := by rwa [hw, hh]
    rw [FrameBuffer.get_of_lt c.display inside]
    cases c.display.pixels[o] with
    | false => exact .inl rfl
    | true => exact .inr rfl
  outside := by
    intro o ho
    exact FrameBuffer.get_of_le c.display (by rwa [hw, hh])
  bound := sound.bound
  fetch := sound.store.instruction

/-- The invariant holds in every state of every history: operations on the store of an accepted
program, then requests to a machine over that store and a frame buffer, whatever came of each. -/
theorem invariant_of_history {program : List UInt8} {loaded : Store}
    (accepted : Store.ofProgram? program = .ok loaded) (ops : List Store.Operation)
    (display : FrameBuffer) (seed : UInt64) (requests : List Request) :
    (loaded.performAll ops).Sound ∧
      (loaded.performAll ops).registers.stack.frames.length ≤ 16 ∧
      ((Cpu.new (loaded.performAll ops) display seed).performAll requests).Invariant
        display.width display.height := by
  have store := (Store.Sound.ofProgram? accepted).performAll ops
  have size := size_performAll (Cpu.new (loaded.performAll ops) display seed) requests
  refine ⟨store, ReturnStack.length_frames_le _, ?_⟩
  exact invariant_of_sound ((Sound.new store display seed).performAll requests) size.1 size.2

/-- A return on an empty stack fails, and so did a move of PC and a write before it. -/
theorem invariant_after_failures :
    let loaded : Store := ⟨.image [0x00, 0xEE], .initial, [0x00, 0xEE], .below255⟩
    let s := loaded.performAll [.pushReturn (some 0x300), .advancePc 1, .popReturn]
    ((Cpu.new s (FrameBuffer.blank 3 2) 0).performAll
      [.step, .setPixel 6 1, .batch 2]).Invariant 3 2 := by
  intro loaded s
  have accepted : Store.ofProgram? [0x00, 0xEE] = .ok loaded := rfl
  exact (invariant_of_history accepted _ (.blank 3 2) 0 _).2.2

end Chip8.Cpu
