import Chip8.Proofs.Cpu.Soundness

/-!
# Failed steps

A failed step changes nothing but the timers, the bell and the pixels of a broken
display.  Nothing takes back what a step wrote before it failed.  It is the order within
an instruction that makes this true: the effects on the store check all they need before
their first write (`executed`), and the place after an instruction is checked before the
timers tick (`Stepped`).  What a failed step does change is told by its fault.

* A step that is rejected before the tick (`Cpu.Rejected`) changes nothing at all.
* Any other failed step has ticked the timers once (`Cpu.Ticked`).
* A display that honours its pixels keeps them, since drawing on it cannot fail.

The faults of the display itself must be faults of range, or else a display could
pass its own fault off as a rejection.
-/

namespace Chip8.Cpu

variable {δ : Type}

/-! ## What a failure leaves -/

/-- What no failed step changes. -/
structure Untouched (c c' : Cpu δ) : Prop where
  memory : c'.store.memory = c.store.memory
  v : c'.store.registers.v = c.store.registers.v
  i : c'.store.registers.i = c.store.registers.i
  pc : c'.store.registers.pc = c.store.registers.pc
  stack : c'.store.registers.stack = c.store.registers.stack
  program : c'.store.program = c.store.program
  timerBound : c'.store.timerBound = c.store.timerBound
  keypad : c'.keypad = c.keypad
  dialect : c'.dialect = c.dialect
  random : c'.random = c.random
  cycles : c'.cycles = c.cycles
  last : c'.last = c.last

/-- Both timers and the bell are as they were. -/
structure Unticked (c c' : Cpu δ) : Prop where
  delay : c'.store.registers.delay = c.store.registers.delay
  sound : c'.store.registers.sound = c.store.registers.sound
  bell : c'.bell = c.bell

/-- Each timer that ran is one lower, and the bell rang once if the sound timer ran. -/
structure Ticked (c c' : Cpu δ) : Prop where
  delay : c'.store.registers.delay.toNat = c.store.registers.delay.toNat - 1
  sound : c'.store.registers.sound.toNat = c.store.registers.sound.toNat - 1
  bell : c'.bell = if c.store.registers.sound = 0 then c.bell else c.bell.ring

/-- A fault that is found before the timers tick: a word that no opcode has, and an instruction
in the last place that would go on to the next one. -/
def Rejected (c : Cpu δ) (f : Fault) : Prop :=
  (∃ i previous, f = .unassigned i previous) ∨
    f = .badTarget 0x1000 ∧ c.store.registers.pc = 0xFFE ∧
      ∃ i op, c.store.instruction = .ok i ∧ i.decode? = some op ∧ op.branches = false

theorem ticked_tickTimers (c : Cpu δ) (display : δ) :
    Ticked c { c.tickTimers with display } where
  delay := Store.toNat_countDown _
  sound := Store.toNat_countDown _
  bell := rfl

theorem untouched_tickTimers (c : Cpu δ) (display : δ) :
    Untouched c { c.tickTimers with display } :=
  ⟨rfl, rfl, rfl, rfl, rfl, rfl, rfl, rfl, rfl, rfl, rfl, rfl⟩

theorem untouched_self (c : Cpu δ) : Untouched c c :=
  ⟨rfl, rfl, rfl, rfl, rfl, rfl, rfl, rfl, rfl, rfl, rfl, rfl⟩

/-- An instruction that is ready to run is not rejected. -/
theorem Ready.not_rejected {c : Cpu δ} {i : Instruction} {op : Opcode} (ready : Ready c i op) {f : Fault}
    (decoded : (Stop.fault f).IsPastDecoding) : ¬ c.Rejected f := by
  rintro (⟨i', previous, rfl⟩ | ⟨-, last, i', op', fetched, decodes, falls⟩)
  · exact decoded
  · obtain rfl : i = i' := Except.ok.inj (ready.fetched.symm.trans fetched)
    obtain rfl : op = op' := Option.some.inj (ready.decoded.symm.trans decodes)
    have placed := checkFallThrough_eq_ok_iff.mp ready.placed
    rw [last, falls] at placed
    exact absurd placed (by decide)

/-! ## Failed executions -/

variable [Display δ] {c : Cpu δ}

/-- The display honours every pixel of its plane. -/
def DisplayHonoured (c : Cpu δ) : Prop :=
  Display.Honours c.display (Display.width c.display * Display.height c.display)

/-- A failed execution changes at most the display, and only one that breaks its promise. -/
theorem Executed.of_error (faults : Display.RangeFaults δ) {op : Opcode} {e : Stop} {c' : Cpu δ}
    (execution : Executed c op ⟨.error e, c'⟩) :
    e.IsPastDecoding ∧ ∃ display, c' = { c with display } ∧
      (c.DisplayHonoured → display = c.display) := by
  cases execution with
  | failed decoded => exact ⟨decoded, c.display, rfl, fun _ => rfl⟩
  | broken inside broke =>
      obtain ⟨a, rfl⟩ := Display.blit_fault faults broke
      refine ⟨trivial, _, rfl, ?_⟩
      intro honours
      obtain ⟨hit, drawn⟩ := Display.blit_ok_of_honours honours inside
      rw [drawn] at broke
      cases broke

/-- An instruction that goes on has no place after it in the last place only. -/
theorem last_place_of_outside {pc : UInt16} (valid : CodeAddress.Valid pc.toNat)
    (outside : ¬ CodeAddress.Valid (pc.toNat + 2)) : pc = 0xFFE := by
  rw [← UInt16.toNat_inj]
  change pc.toNat = 0xFFE
  unfold CodeAddress.Valid at valid outside
  omega

/-! ## Failed steps -/

/-- A failed step of a sound machine was rejected, or failed after the tick. -/
theorem Stepped.of_fault (faults : Display.RangeFaults δ) (sound : c.Sound) {f : Fault}
    {c' : Cpu δ} (h : Stepped c ⟨.error (.fault f), c'⟩) :
    c.Rejected f ∧ c' = c ∨
      ¬ c.Rejected f ∧ ∃ display, c' = { c.tickTimers with display } ∧
        (c.DisplayHonoured → display = c.display) := by
  cases h with
  | unfetched unfetched =>
      obtain ⟨i, fetched⟩ := sound.store.instruction
      rw [fetched] at unfetched
      cases unfetched
  | unassigned => exact .inl ⟨.inl ⟨_, _, rfl⟩, rfl⟩
  | unplaced fetched decoded falls outside =>
      have last := last_place_of_outside sound.store.pc outside
      refine .inl ⟨.inr ⟨?_, last, _, _, fetched, decoded, falls⟩, rfl⟩
      rw [last]
      rfl
  | failed ready execution =>
      obtain ⟨decoded, display, same, honoured⟩ := execution.of_error faults
      exact .inr ⟨ready.not_rejected decoded, display, same, honoured⟩

/-- A failing step is atomic but for the tick of the timers, in every machine an owner can come
to. -/
theorem failed_step_atomic (faults : Display.RangeFaults δ) (reachable : c.Reachable) {f : Fault}
    (failed : c.step.result = .error (.fault f)) :
    Untouched c c.step.state ∧
      (c.Rejected f → Unticked c c.step.state) ∧
      (¬ c.Rejected f → Ticked c c.step.state) ∧
      (c.DisplayHonoured → c.step.state.display = c.display) := by
  have left : Stepped c ⟨.error (.fault f), c.step.state⟩ := by
    rw [← failed]
    exact stepped c
  rcases left.of_fault faults reachable.sound with
    ⟨rejected, same⟩ | ⟨ran, display, same, honoured⟩
  · rw [same]
    exact ⟨untouched_self c, fun _ => ⟨rfl, rfl, rfl⟩, absurd rejected, fun _ => rfl⟩
  · rw [same]
    exact ⟨untouched_tickTimers c display, fun rejected => absurd rejected ran,
      fun _ => ticked_tickTimers c display, honoured⟩

/-- The store of a program that returns at once. -/
def returnStore : Store := ⟨.image [0x00, 0xEE], .initial, [0x00, 0xEE], .below255⟩

/-- Its machine, which has nowhere to return to. -/
def returning : Cpu FrameBuffer := .new returnStore (.blank 64 32) 0

theorem step_returning : returning.step.result = .error (.fault .stackUnderflow) := by
  have fetched : returning.store.instruction = .ok ⟨0x00, 0xEE⟩ :=
    Store.instruction_of_image (k := 0) rfl rfl rfl rfl (by decide)
  have decoded : (⟨0x00, 0xEE⟩ : Instruction).decode? = some .ret := by decide
  rw [step_of_decoded fetched decoded]
  rfl

theorem return_on_empty_stack_atomic :
    returning.step.result = .error (.fault .stackUnderflow) ∧
      Untouched returning returning.step.state ∧ Ticked returning returning.step.state ∧
      returning.step.state.display = returning.display := by
  have accepted : Store.ofProgram? [0x00, 0xEE] = .ok returnStore := rfl
  have reachable : returning.Reachable := .new accepted [] _ 0
  obtain ⟨untouched, -, ticked, honoured⟩ :=
    failed_step_atomic FrameBuffer.rangeFaults reachable step_returning
  refine ⟨step_returning, untouched, ticked ?_, honoured (FrameBuffer.honours _)⟩
  rintro (⟨i, previous, same⟩ | ⟨same, -⟩)
  · cases same
  · cases same

end Chip8.Cpu
