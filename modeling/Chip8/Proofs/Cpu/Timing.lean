import Chip8.Proofs.Cpu.Batch
import Chip8.Proofs.Cpu.Failure
import Chip8.Proofs.Cpu.Ringing

/-!
# Timers and the bell

Every attempt at a step that passes the checks before the tick takes one off each
timer that runs, and rings the bell once if the sound timer runs.  Then the
instruction acts, also on the timers: what it reads is the timer after the tick, and
what it writes stays until the next tick.  An attempt that is rejected before the
tick does neither.

So the books balance over any row of attempts (`timers_balanced`).  A sound timer that
no instruction sets has lost as much as there were passing attempts, down to zero,
and the bell rang as often.  In general the rings and the timer together have gained
what the instructions that set the timer gave it beyond what they found.

Only two opcodes write to the timers (`sameTimers_execute`), and no execution rings.
-/

namespace Chip8

/-- Neither timer differs. -/
structure Store.SameTimers (s t : Store) : Prop where
  delay : t.registers.delay = s.registers.delay
  sound : t.registers.sound = s.registers.sound

namespace Cpu

variable {δ : Type}

/-- The delay timer. -/
def delay (c : Cpu δ) : Nat := c.store.registers.delay.toNat

/-- The sound timer. -/
def sound (c : Cpu δ) : Nat := c.store.registers.sound.toNat

/-! ## The timers and the execution -/

section
variable {c : Cpu δ}

theorem sameTimers_going (flow : Except Fault Flow) :
    c.store.SameTimers (c.going flow).state.store := ⟨rfl, rfl⟩

/-- An effect that cannot fail. -/
theorem sameTimers_of_eq {a : Attempt Fault Store Unit} {s : Store} (effect : a = ⟨.ok (), s⟩)
    (same : c.store.SameTimers s) : c.store.SameTimers (c.thenNext a).state.store := by
  rw [effect]
  exact same

/-- An effect that fails unless it fits. -/
theorem sameTimers_of_ite {a : Attempt Fault Store Unit} {fits : Prop} [Decidable fits]
    {s : Store} {f : Fault} (effect : a = if fits then ⟨.ok (), s⟩ else ⟨.error f, c.store⟩)
    (same : c.store.SameTimers s) : c.store.SameTimers (c.thenNext a).state.store := by
  rw [effect]
  split
  · exact same
  · exact ⟨rfl, rfl⟩

theorem sameTimers_call (c : Cpu δ) (target : UInt16) :
    c.store.SameTimers (c.withStore (c.store.callTo target)).state.store := by
  rw [Store.callTo_eq]
  cases CodeAddress.check target.toNat with
  | error f => exact ⟨rfl, rfl⟩
  | ok t =>
      dsimp only
      obtain ⟨stack, -, done⟩ | ⟨f, -, refused, -⟩ := c.store.pushReturn_cases none
      · rw [done]
        exact ⟨rfl, rfl⟩
      · rw [refused]
        exact ⟨rfl, rfl⟩

theorem sameTimers_ret (c : Cpu δ) :
    c.store.SameTimers (c.withStore c.store.returnFromCall).state.store := by
  rw [Store.returnFromCall_eq]
  cases c.store.registers.stack.top? with
  | none => exact ⟨rfl, rfl⟩
  | some a =>
      dsimp only
      cases CodeAddress.check (a.toNat + 2) with
      | error f => exact ⟨rfl, rfl⟩
      | ok target => exact ⟨rfl, rfl⟩

theorem sameTimers_storeDigits {x : UInt8} (hx : x.toNat < 16) :
    c.store.SameTimers (c.thenNext (c.store.storeDigits c.dialect.digits x)).state.store := by
  cases c.dialect.digits with
  | canonical => exact sameTimers_of_ite (Store.storeDigits_canonical_eq hx) ⟨rfl, rfl⟩
  | literal => exact sameTimers_of_ite (Store.storeDigits_literal_eq hx) ⟨rfl, rfl⟩

end

section
variable [Display δ] {c : Cpu δ} {op : Opcode}

theorem sameTimers_draw (c : Cpu δ) (x y rows : UInt8) :
    c.store.SameTimers (c.draw x y rows).state.store := by
  rw [draw]
  cases c.spriteDots x y rows with
  | error e => exact ⟨rfl, rfl⟩
  | ok dots =>
      dsimp only
      generalize Display.blit c.dialect.collision c.display false dots = drawn
      obtain ⟨result, display⟩ := drawn
      cases result with
      | error f => exact ⟨rfl, rfl⟩
      | ok hit =>
          have flag := Store.setV_eq c.store (Store.flagValue hit) Store.flag_lt
          exact sameTimers_of_eq (c := { c with display }) flag ⟨rfl, rfl⟩

/-- No opcode but the two that set a timer changes one. -/
theorem sameTimers_execute (inRange : op.InRange) (apart : ∀ x, op ≠ .setDelay x ∧ op ≠ .setSound x) :
    c.store.SameTimers (c.execute op).state.store := by
  cases op with
  | ret => exact sameTimers_ret c
  | jump target => exact sameTimers_going _
  | call target => exact sameTimers_call c target
  | skipIfByte x byte => exact sameTimers_going _
  | skipUnlessByte x byte => exact sameTimers_going _
  | skipIfSame x y => exact sameTimers_going _
  | skipIfKeyUp x => exact sameTimers_going _
  | loadByte x byte => exact sameTimers_of_eq (Store.setV_eq _ _ inRange) ⟨rfl, rfl⟩
  | addByte x byte => exact sameTimers_of_eq (Store.addV_eq inRange _) ⟨rfl, rfl⟩
  | move x y => exact sameTimers_of_eq (Store.move_eq inRange.1 inRange.2) ⟨rfl, rfl⟩
  | conjoin x y => exact sameTimers_of_eq (Store.conjoin_eq inRange.1 inRange.2) ⟨rfl, rfl⟩
  | add x y => exact sameTimers_of_eq (Store.addRegisters_eq inRange.1 inRange.2) ⟨rfl, rfl⟩
  | subtract x y => exact sameTimers_of_eq (Store.subtract_eq inRange.1 inRange.2) ⟨rfl, rfl⟩
  | shiftRight x y =>
      exact sameTimers_of_eq (Store.shiftRight_eq (shifted_lt c inRange.1 inRange.2)) ⟨rfl, rfl⟩
  | shiftLeft x y =>
      exact sameTimers_of_eq (Store.shiftLeft_eq (shifted_lt c inRange.1 inRange.2)) ⟨rfl, rfl⟩
  | loadIndex address => exact sameTimers_of_eq rfl ⟨rfl, rfl⟩
  | addIndex x => exact sameTimers_of_eq (Store.addIndex_eq inRange) ⟨rfl, rfl⟩
  | loadGlyph x => exact sameTimers_of_eq (Store.loadGlyph_eq inRange) ⟨rfl, rfl⟩
  | random x mask =>
      exact sameTimers_of_eq (c := { c with random := c.random.next.2 })
        (Store.setV_eq c.store _ inRange) ⟨rfl, rfl⟩
  | draw x y rows => exact sameTimers_draw c x y rows
  | readDelay x => exact sameTimers_of_eq (Store.readDelay_eq inRange) ⟨rfl, rfl⟩
  | setDelay x => exact absurd rfl (apart x).1
  | setSound x => exact absurd rfl (apart x).2
  | storeDigits x => exact sameTimers_storeDigits inRange
  | saveRegisters x => exact sameTimers_of_ite (Store.saveRegisters_eq inRange) ⟨rfl, rfl⟩
  | loadRegisters x => exact sameTimers_of_ite (Store.loadRegisters_eq inRange) ⟨rfl, rfl⟩

end

/-! ## One attempt -/

/-- Whether the instruction at PC passes the checks before the tick. -/
def passes (c : Cpu δ) : Bool :=
  match c.store.instruction with
  | .error _ => false
  | .ok i =>
      match i.decode? with
      | none => false
      | some op => (checkFallThrough c.store.registers.pc op).isOk

theorem passes_iff {c : Cpu δ} : c.passes = true ↔ ∃ i op, Ready c i op := by
  constructor
  · intro passes
    rw [Cpu.passes] at passes
    split at passes
    next => cases passes
    next i fetched =>
      split at passes
      next => cases passes
      next op decoded =>
        cases placed : checkFallThrough c.store.registers.pc op with
        | error f =>
            rw [placed] at passes
            cases passes
        | ok u => exact ⟨i, op, fetched, decoded, placed⟩
  · rintro ⟨i, op, ready⟩
    rw [Cpu.passes, ready.fetched]
    dsimp only
    rw [ready.decoded]
    dsimp only
    rw [ready.placed]
    rfl

/-- One when the attempt passes the checks, and nothing otherwise. -/
def passing (c : Cpu δ) : Nat := if c.passes then 1 else 0

/-- The number of attempts that passed. -/
def passed (made : List (Cpu δ)) : Nat := made.countP passes

theorem passed_cons (c : Cpu δ) (made : List (Cpu δ)) :
    passed (c :: made) = c.passing + passed made := by
  rw [passed, List.countP_cons, Nat.add_comm]
  rfl

variable [Display δ] {c : Cpu δ} {i : Instruction} {op : Opcode}

/-- An attempt that passes the checks acts on the machine whose timers have ticked. -/
theorem step_of_ready (ready : Ready c i op) :
    c.step.result = (c.tickTimers.executeAndMove op).result.map (fun _ => op) ∧
      c.step.state.store = (c.tickTimers.executeAndMove op).state.store ∧
      c.step.state.bell = (c.tickTimers.executeAndMove op).state.bell := by
  have step := step_of_decoded ready.fetched ready.decoded
  change c.step.toAttempt.result = _ ∧ c.step.toAttempt.state.store = _ ∧
    c.step.toAttempt.state.bell = _
  rw [step, runDecoded_eq, ready.placed]
  dsimp only [Attempt.andThen]
  cases moved : (c.tickTimers.executeAndMove op).result with
  | error e => exact ⟨rfl, rfl, rfl⟩
  | ok u => exact ⟨rfl, rfl, rfl⟩

/-- Moving PC changes neither the timers nor the bell. -/
theorem sameTimers_executeAndMove (c : Cpu δ) (op : Opcode) :
    (c.execute op).state.store.SameTimers (c.executeAndMove op).state.store ∧
      (c.executeAndMove op).state.bell = (c.execute op).state.bell := by
  cases done : (c.execute op).result with
  | error e =>
      rw [executeAndMove_of_error done]
      exact ⟨⟨rfl, rfl⟩, rfl⟩
  | ok flow =>
      obtain ⟨pc, -, moved⟩ | ⟨f, -, moved⟩ := executeAndMove_cases done
      · rw [moved]
        exact ⟨⟨rfl, rfl⟩, rfl⟩
      · rw [moved]
        exact ⟨⟨rfl, rfl⟩, rfl⟩

theorem bell_of_ready (ready : Ready c i op) : c.step.state.bell = c.tickTimers.bell := by
  obtain ⟨-, -, bell⟩ := step_of_ready ready
  rw [bell, (sameTimers_executeAndMove c.tickTimers op).2]
  exact (executed c.tickTimers ready.inRange).keeps.bell

/-- An opcode that sets no timer leaves the timers as the tick did. -/
theorem sameTimers_of_ready (ready : Ready c i op)
    (apart : ∀ x, op ≠ .setDelay x ∧ op ≠ .setSound x) :
    c.tickTimers.store.SameTimers c.step.state.store := by
  obtain ⟨-, store, -⟩ := step_of_ready ready
  have executed := sameTimers_execute (c := c.tickTimers) ready.inRange apart
  have moved := (sameTimers_executeAndMove c.tickTimers op).1
  rw [store]
  exact ⟨moved.delay.trans executed.delay, moved.sound.trans executed.sound⟩

/-- An opcode whose effect fails unless it fits: it is done, or the store is as the tick left it. -/
theorem step_of_ite (ready : Ready c i op) (falls : op.branches = false) {fits : Prop}
    [Decidable fits] {a : Attempt Fault Store Unit} {s : Store} {f : Fault}
    (effect : c.tickTimers.execute op = c.tickTimers.thenNext a)
    (checked : a = if fits then ⟨.ok (), s⟩ else ⟨.error f, c.tickTimers.store⟩)
    (pc : s.registers.pc = c.store.registers.pc) :
    fits ∧ c.step.result = .ok op ∧
        c.step.state.store = s.withPc (.ofNat (c.store.registers.pc.toNat + 2)) ∨
      ¬ fits ∧ c.step.result = .error (.fault f) ∧
        c.step.state.store = c.tickTimers.store := by
  by_cases fit : fits
  · rw [if_pos fit] at checked
    exact .inl ⟨fit, step_of_effect ready falls effect checked pc⟩
  · rw [if_neg fit] at checked
    rw [checked] at effect
    have failed : c.tickTimers.executeAndMove op = ⟨.error (.fault f), c.tickTimers⟩ := by
      rw [executeAndMove, effect]
      rfl
    obtain ⟨result, store, -⟩ := step_of_ready ready
    rw [failed] at result store
    exact .inr ⟨fit, result, store⟩

/-- What an attempt that passes the checks does to the timers. -/
inductive TimerMove (c : Cpu δ) : Prop where
  /-- The delay timer was set. -/
  | delaySet {x : UInt8} (result : c.step.result = .ok (.setDelay x))
      (delay : c.step.state.delay = (c.store.value x).toNat)
      (sound : c.step.state.sound = c.sound - 1)
  /-- The sound timer was set. -/
  | soundSet {x : UInt8} (result : c.step.result = .ok (.setSound x))
      (delay : c.step.state.delay = c.delay - 1)
      (sound : c.step.state.sound = (c.store.value x).toNat)
  /-- Neither was. -/
  | kept (apart : ∀ x, c.step.result ≠ .ok (.setDelay x) ∧ c.step.result ≠ .ok (.setSound x))
      (delay : c.step.state.delay = c.delay - 1) (sound : c.step.state.sound = c.sound - 1)

/-- The timers of a store that has those of the tick. -/
theorem ticked_of_sameTimers (same : c.tickTimers.store.SameTimers c.step.state.store) :
    c.step.state.delay = c.delay - 1 ∧ c.step.state.sound = c.sound - 1 := by
  constructor
  · rw [delay, same.delay]
    exact Store.toNat_countDown _
  · rw [sound, same.sound]
    exact Store.toNat_countDown _

/-- A step of an opcode answers no other. -/
theorem answer_of_ready (ready : Ready c i op) {answer : Opcode}
    (ok : c.step.result = .ok answer) : op = answer := by
  obtain ⟨result, -, -⟩ := step_of_ready ready
  rw [result] at ok
  cases moved : (c.tickTimers.executeAndMove op).result with
  | error e =>
      rw [moved] at ok
      cases ok
  | ok u =>
      rw [moved] at ok
      exact Except.ok.inj ok

theorem TimerMove.of_apart (ready : Ready c i op)
    (apart : ∀ x, op ≠ .setDelay x ∧ op ≠ .setSound x) : TimerMove c := by
  obtain ⟨delay, sound⟩ := ticked_of_sameTimers (sameTimers_of_ready ready apart)
  refine .kept (fun x => ⟨?_, ?_⟩) delay sound
  · intro ok
    exact (apart x).1 (answer_of_ready ready ok)
  · intro ok
    exact (apart x).2 (answer_of_ready ready ok)

theorem TimerMove.of_refused {f : Fault} (result : c.step.result = .error (.fault f))
    (store : c.step.state.store = c.tickTimers.store) : TimerMove c := by
  have same : c.tickTimers.store.SameTimers c.step.state.store := by
    rw [store]
    exact ⟨rfl, rfl⟩
  obtain ⟨delay, sound⟩ := ticked_of_sameTimers same
  exact .kept (fun x => by simp [result]) delay sound

theorem execute_setDelay (c : Cpu δ) {x : UInt8} (inRange : x.toNat < 16) :
    c.execute (.setDelay x) = c.thenNext (c.store.setDelay (c.store.value x)) := by
  rw [execute, Store.startDelay_eq inRange]

theorem execute_setSound (c : Cpu δ) {x : UInt8} (inRange : x.toNat < 16) :
    c.execute (.setSound x) = c.thenNext (c.store.setSound (c.store.value x)) := by
  rw [execute, Store.startSound_eq inRange]

theorem timerMove_of_setDelay {x : UInt8} (ready : Ready c i (.setDelay x)) : TimerMove c := by
  have effect := execute_setDelay c.tickTimers ready.inRange
  rcases step_of_ite ready rfl effect (Store.setDelay_eq _ _) rfl with
    ⟨-, result, store⟩ | ⟨-, result, store⟩
  · refine .delaySet result ?_ ?_
    · rw [delay, store]
      rfl
    · rw [sound, store]
      exact Store.toNat_countDown _
  · exact .of_refused result store

theorem timerMove_of_setSound {x : UInt8} (ready : Ready c i (.setSound x)) : TimerMove c := by
  have effect := execute_setSound c.tickTimers ready.inRange
  rcases step_of_ite ready rfl effect (Store.setSound_eq _ _) rfl with
    ⟨-, result, store⟩ | ⟨-, result, store⟩
  · refine .soundSet result ?_ ?_
    · rw [delay, store]
      exact Store.toNat_countDown _
    · rw [sound, store]
      rfl
  · exact .of_refused result store

theorem timerMove_of_ready (ready : Ready c i op) : TimerMove c := by
  cases op with
  | setDelay x => exact timerMove_of_setDelay ready
  | setSound x => exact timerMove_of_setSound ready
  | _ => exact .of_apart ready fun x => ⟨nofun, nofun⟩

/-- An attempt that does not pass the checks fails, and changes nothing at all. -/
theorem Stepped.of_not_passes {a : Attempt Stop (Cpu δ) Opcode} (stepped : Stepped c a)
    (rejected : c.passes = false) : (∃ f, a.result = .error (.fault f)) ∧ a.state = c := by
  have unready {i : Instruction} {op : Opcode} : ¬ Ready c i op := by
    intro ready
    rw [passes_iff.mpr ⟨i, op, ready⟩] at rejected
    cases rejected
  cases stepped with
  | unfetched => exact ⟨⟨_, rfl⟩, rfl⟩
  | unassigned => exact ⟨⟨_, rfl⟩, rfl⟩
  | unplaced => exact ⟨⟨_, rfl⟩, rfl⟩
  | failed ready => exact absurd ready unready
  | ran ready => exact absurd ready unready

/-- Reading the delay timer takes what the tick left. -/
theorem value_of_readDelay {x : UInt8} (ok : c.step.result = .ok (.readDelay x)) :
    (c.step.state.store.value x).toNat = c.delay - 1 := by
  obtain ⟨i, flow, done, store, ran⟩ := exists_of_step_ok ok
  obtain ⟨-, left⟩ := step_of_effect ran.ready rfl rfl (Store.readDelay_eq ran.ready.inRange) rfl
  have kept : c.step.state.store.value x =
      (c.tickTimers.store.put x c.tickTimers.store.registers.delay).value x := by
    rw [left]
    rfl
  rw [kept, Store.value_put _ _ ran.ready.inRange, if_pos rfl]
  exact Store.toNat_countDown _

/-- How an attempt at a step treats the timers and the bell. -/
structure Timed (c : Cpu δ) : Prop where
  /-- A rejected attempt fails and changes nothing. -/
  rejected : c.passes = false → (∃ f, c.step.result = .error (.fault f)) ∧ c.step.state = c
  /-- The tick takes one off each timer that runs, and rings if the sound timer runs. -/
  ticked : Ticked c c.tickTimers
  /-- An attempt that passes acts on the machine that has ticked. -/
  acts : ∀ i op, Ready c i op →
    c.step.result = (c.tickTimers.executeAndMove op).result.map (fun _ => op) ∧
      c.step.state.store = (c.tickTimers.executeAndMove op).state.store
  /-- And it rings no more than the tick. -/
  rings : c.passes = true → c.step.state.bell = c.tickTimers.bell
  /-- The timers it leaves are those of the tick, but for the one that it set. -/
  moves : c.passes = true → TimerMove c
  /-- Reading the delay timer takes what the tick left. -/
  reads : ∀ x, c.step.result = .ok (.readDelay x) →
    (c.step.state.store.value x).toNat = c.delay - 1

theorem timed (c : Cpu δ) : Timed c where
  rejected := (stepped c).of_not_passes
  ticked := ticked_tickTimers c c.display
  acts i op ready := ⟨(step_of_ready ready).1, (step_of_ready ready).2.1⟩
  rings passes := by
    obtain ⟨i, op, ready⟩ := passes_iff.mp passes
    exact bell_of_ready ready
  moves passes := by
    obtain ⟨i, op, ready⟩ := passes_iff.mp passes
    exact timerMove_of_ready ready
  reads x := value_of_readDelay

/-! ## One attempt in numbers -/

/-- How often the bell rang. -/
def beeps (c : Cpu δ) : Nat := c.bell.count

/-- What a successful step that sets the sound timer gave it beyond what it found there. -/
def soundGiven (c : Cpu δ) : Int :=
  match c.step.result with
  | .ok (.setSound x) => (c.store.value x).toNat - ((c.sound - 1 : Nat) : Int)
  | _ => 0

/-- The bell rings in a passing attempt while the sound timer runs. -/
theorem beeps_step (c : Cpu δ) : c.step.state.beeps = c.beeps + min c.sound c.passing := by
  cases passes : c.passes with
  | false =>
      have unchanged := ((timed c).rejected passes).2
      simp [unchanged, passing, passes]
  | true =>
      rw [beeps, (timed c).rings passes, (timed c).ticked.bell, passing, if_pos passes]
      split
      next silent => simp [beeps, sound, silent]
      next running =>
        have pos : c.sound ≠ 0 := fun zero => running (UInt8.toNat_inj.mp zero)
        change c.beeps + 1 = _
        omega

/-- A step that does not set the sound timer takes one off it if it passes. -/
theorem sound_step (kept : ∀ x, c.step.result ≠ .ok (.setSound x)) :
    c.step.state.sound = c.sound - c.passing := by
  cases passes : c.passes with
  | false =>
      have unchanged := ((timed c).rejected passes).2
      simp [unchanged, passing, passes]
  | true =>
      rw [passing, if_pos passes]
      cases (timed c).moves passes with
      | delaySet result delay sound => exact sound
      | soundSet result => exact absurd result (kept _)
      | kept apart delay sound => exact sound

/-- A step that does not set the delay timer takes one off it if it passes. -/
theorem delay_step (kept : ∀ x, c.step.result ≠ .ok (.setDelay x)) :
    c.step.state.delay = c.delay - c.passing := by
  cases passes : c.passes with
  | false =>
      have unchanged := ((timed c).rejected passes).2
      simp [unchanged, passing, passes]
  | true =>
      rw [passing, if_pos passes]
      cases (timed c).moves passes with
      | delaySet result => exact absurd result (kept _)
      | soundSet result delay sound => exact delay
      | kept apart delay sound => exact delay

theorem soundGiven_of_kept (kept : ∀ x, c.step.result ≠ .ok (.setSound x)) :
    c.soundGiven = 0 := by
  rw [soundGiven]
  split
  next x result => exact absurd result (kept x)
  next => rfl

/-- A step loses on the timer what it rings, but for what it gives the timer. -/
theorem balance_step (c : Cpu δ) :
    (c.step.state.beeps + c.step.state.sound : Int) = c.beeps + c.sound + c.soundGiven := by
  have rings := beeps_step c
  cases passes : c.passes with
  | false =>
      obtain ⟨⟨f, failed⟩, unchanged⟩ := (timed c).rejected passes
      have given := soundGiven_of_kept (c := c) fun x => by simp [failed]
      rw [unchanged, given]
      omega
  | true =>
      rw [passing, if_pos passes] at rings
      cases (timed c).moves passes with
      | delaySet result delay sound =>
          have given : c.soundGiven = 0 := by rw [soundGiven, result]
          omega
      | @soundSet x result delay sound =>
          have given : c.soundGiven = (c.store.value x).toNat - ((c.sound - 1 : Nat) : Int) := by
            rw [soundGiven, result]
          omega
      | kept apart delay sound =>
          have given := soundGiven_of_kept fun x => (apart x).2
          omega

/-! ## Runs -/

/-- Neither timer differs, and the bell rang equally often. -/
structure SameClock (c d : Cpu δ) : Prop where
  delay : d.delay = c.delay
  sound : d.sound = c.sound
  beeps : d.beeps = c.beeps

/-- Attempts at steps one after the other, the machines that made them, and the machine after the
last.  Between two attempts anything may happen, but to the timers and the bell. -/
inductive Attempts : Cpu δ → List (Cpu δ) → Cpu δ → Prop where
  /-- None. -/
  | none (c : Cpu δ) : Attempts c [] c
  /-- One before the others. -/
  | cons {c d e : Cpu δ} {made : List (Cpu δ)} (between : SameClock c.step.state d)
      (later : Attempts d made e) : Attempts c (c :: made) e

/-- Steps with nothing in between. -/
theorem attempts_after (c : Cpu δ) (n : Nat) :
    ∃ made, Attempts c made (c.after n) ∧ made.length = n := by
  induction n generalizing c with
  | zero => exact ⟨[], .none c, rfl⟩
  | succ n ih =>
      obtain ⟨made, later, length⟩ := ih c.step.state
      exact ⟨c :: made, .cons ⟨rfl, rfl, rfl⟩ later, congrArg (· + 1) length⟩

variable {e : Cpu δ} {made : List (Cpu δ)}

/-- What the attempts gave to the sound timer beyond what they found there. -/
def given : List (Cpu δ) → Int
  | [] => 0
  | c :: made => c.soundGiven + given made

theorem sound_run (run : Attempts c made e)
    (kept : ∀ d ∈ made, ∀ x, d.step.result ≠ .ok (.setSound x)) :
    e.sound = c.sound - min c.sound (passed made) ∧
      e.beeps = c.beeps + min c.sound (passed made) := by
  induction run with
  | none c => simp [passed]
  | @cons c d e made between later ih =>
      obtain ⟨sound, beeps⟩ := ih fun d among => kept d (.tail _ among)
      have first := sound_step (kept c (.head _))
      have rings := beeps_step c
      rw [sound, beeps, between.sound, between.beeps, first, rings, passed_cons]
      omega

theorem delay_run (run : Attempts c made e)
    (kept : ∀ d ∈ made, ∀ x, d.step.result ≠ .ok (.setDelay x)) :
    e.delay = c.delay - min c.delay (passed made) := by
  induction run with
  | none c => simp [passed]
  | @cons c d e made between later ih =>
      have delay := ih fun d among => kept d (.tail _ among)
      rw [delay, between.delay, delay_step (kept c (.head _)), passed_cons]
      omega

theorem balance_run (run : Attempts c made e) :
    (e.beeps + e.sound : Int) = c.beeps + c.sound + given made := by
  induction run with
  | none c => simp [given]
  | @cons c d e made between later ih =>
      have first := balance_step c
      rw [between.beeps, between.sound] at ih
      rw [given]
      omega

/-- The accounts of a row of attempts. -/
structure Balanced (c : Cpu δ) (made : List (Cpu δ)) (e : Cpu δ) : Prop where
  /-- Each attempt ticks and rings once if it passes the checks, and does neither otherwise. -/
  each : ∀ d ∈ made, Timed d
  /-- A sound timer that nothing sets runs down, and the bell rings for all that it lost. -/
  sound : (∀ d ∈ made, ∀ x, d.step.result ≠ .ok (.setSound x)) →
    e.sound = c.sound - min c.sound (passed made) ∧
      e.beeps = c.beeps + min c.sound (passed made)
  /-- A delay timer that nothing sets runs down. -/
  delay : (∀ d ∈ made, ∀ x, d.step.result ≠ .ok (.setDelay x)) →
    e.delay = c.delay - min c.delay (passed made)
  /-- The rings and what is left on the sound timer are what it had and what it was given. -/
  balance : ((e.beeps - c.beeps) + e.sound : Int) = c.sound + given made

/-- The timers and the bell balance over any row of attempts, whatever came of each. -/
theorem timers_balanced (run : Attempts c made e) : Balanced c made e where
  each d _ := timed d
  sound := sound_run run
  delay := delay_run run
  balance := by
    have balance := balance_run run
    omega

/-- The machine that returns at once, with a sound timer and a bell that rang so often. -/
def sounding (timer : UInt8) (rings : Nat) : Cpu FrameBuffer :=
  { returning with
    store.registers.sound := timer
    bell := Bell.rung {} rings }

theorem ready_sounding (timer : UInt8) (rings : Nat) :
    Ready (sounding timer rings) ⟨0x00, 0xEE⟩ .ret where
  fetched := Store.instruction_of_image (k := 0) rfl rfl rfl rfl (by decide)
  decoded := by decide
  placed := rfl

theorem step_sounding (timer : UInt8) (rings : Nat) :
    (sounding timer rings).step.toAttempt =
      ⟨.error (.fault .stackUnderflow),
        sounding (Store.countDown timer) (if timer = 0 then rings else rings + 1)⟩ := by
  have ready := ready_sounding timer rings
  rw [step_of_decoded ready.fetched ready.decoded]
  by_cases silent : timer = 0
  · rw [if_pos silent, silent]
    rfl
  · have ticked : (sounding timer rings).tickTimers =
        sounding (Store.countDown timer) (rings + 1) := by
      rw [tickTimers, if_neg (show (sounding timer rings).store.registers.sound ≠ 0 from silent)]
      rfl
    rw [if_neg silent, runDecoded_eq, ready.placed, ticked]
    rfl

theorem five_returns_beep_thrice :
    let made := [sounding 3 0, sounding 2 1, sounding 1 2, sounding 0 3, sounding 0 3]
    Attempts (sounding 3 0) made (sounding 0 3) ∧ passed made = 5 ∧
      (sounding 0 3).sound = 3 - min 3 (passed made) ∧
      (sounding 0 3).beeps = 0 + min 3 (passed made) := by
  have fails (timer : UInt8) (rings : Nat) (op : Opcode) :
      (sounding timer rings).step.result ≠ .ok op := by
    rw [step_sounding]
    exact nofun
  have passes (timer : UInt8) (rings : Nat) : (sounding timer rings).passes = true :=
    passes_iff.mpr ⟨_, _, ready_sounding timer rings⟩
  intro made
  have clock {timer left : UInt8} {rings heard : Nat} (ticks : Store.countDown timer = left)
      (hears : (if timer = 0 then rings else rings + 1) = heard) :
      SameClock (sounding timer rings).step.state (sounding left heard) := by
    rw [step_sounding, ticks, hears]
    exact ⟨rfl, rfl, rfl⟩
  have run : Attempts (sounding 3 0) made (sounding 0 3) := by
    refine .cons (clock ?_ ?_) (.cons (clock ?_ ?_) (.cons (clock ?_ ?_) (.cons (clock ?_ ?_)
      (.cons (clock ?_ ?_) (.none _)))))
    all_goals decide
  have balanced := (timers_balanced run).sound (by simp [made, fails])
  have timer : (sounding 3 0).sound = 3 := rfl
  have silence : (sounding 3 0).beeps = 0 := rfl
  rw [timer, silence] at balanced
  exact ⟨run, by simp [made, passed, passes], balanced⟩

end Cpu

end Chip8
