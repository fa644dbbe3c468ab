import Chip8.Proofs.Cpu.Failure
import Chip8.Proofs.Cpu.History
import Chip8.Proofs.Cpu.Ringing
import Chip8.Proofs.Cpu.Verdict

/-!
# Diagnostics

A machine tells how many instructions it has run, which was the last, and which word it
could not decode.  An observer is told every instruction that is fetched.  All of this
can be read off the attempts of a history.

`Cpu.log` lists the words of the steps that succeeded since the last reset.  The count of
the machine is the length of this list and its last instruction is the last in it
(`Books`).  A failed attempt adds nothing to the list.  The trace takes one record of
each attempt, failed or not (`trace_eq`).

`diagnostics_truthful` puts this together for a machine with a working display, which is
one that a reset can always clear.
-/

namespace Chip8

/-- The two bytes at PC are those of an instruction. -/
structure Store.AtPc (s : Store) (i : Instruction) : Prop where
  high : s.memory.read s.registers.pc.toNat = .ok i.high
  low : s.memory.read (s.registers.pc.toNat + 1) = .ok i.low

theorem Store.Sound.atPc {s : Store} (sound : s.Sound) : s.AtPc s.word := by
  obtain ⟨inside, even⟩ := sound.pc
  have hlow : s.registers.pc.toNat + 1 < 4096 := by omega
  constructor
  · rw [Memory.read_of_lt _ inside, Store.word, Vector.getElem?_eq_getElem inside]
    rfl
  · rw [Memory.read_of_lt _ hlow, Store.word, Vector.getElem?_eq_getElem hlow]
    rfl

namespace Cpu

variable {δ : Type} [Display δ] {c : Cpu δ} {words : List Instruction}

/-! ## The words that ran -/

/-- The words of the attempts that succeeded. -/
def succeeded (made : List (Cpu δ)) : List Instruction :=
  (made.filter fun m => m.step.result.isOk).map fun m => m.store.word

/-- What a request makes of the words that ran since the last reset. -/
def logged (c : Cpu δ) (words : List Instruction) : Request → List Instruction
  | .reset => []
  | r => words ++ succeeded (c.attemptsOf r)

/-- The words that ran since the last reset in a history, or `words` and those that ran after
them if there was none. -/
def log (c : Cpu δ) (words : List Instruction) : List Request → List Instruction
  | [] => words
  | r :: rs => (c.perform r).state.log (c.logged words r) rs

theorem append_succeeded_nil (words : List Instruction) :
    words ++ succeeded ([] : List (Cpu δ)) = words := List.append_nil words

theorem succeeded_cons_of_ok {op : Opcode} (ok : c.step.result = .ok op) (made : List (Cpu δ)) :
    succeeded (c :: made) = c.store.word :: succeeded made := by
  rw [succeeded, List.filter_cons, ok]
  rfl

theorem succeeded_cons_of_error {e : Stop} (failed : c.step.result = .error e)
    (made : List (Cpu δ)) : succeeded (c :: made) = succeeded made := by
  rw [succeeded, List.filter_cons, failed]
  rfl

theorem logged_of_ne_reset {r : Request} (other : r ≠ .reset) (c : Cpu δ)
    (words : List Instruction) : c.logged words r = words ++ succeeded (c.attemptsOf r) := by
  cases r with
  | reset => exact absurd rfl other
  | _ => rfl

/-- Without a reset every success counts. -/
theorem log_of_no_reset {requests : List Request} (unset : .reset ∉ requests) (c : Cpu δ)
    (words : List Instruction) :
    c.log words requests = words ++ succeeded (c.attempts requests) := by
  induction requests generalizing c words with
  | nil => exact (append_succeeded_nil words).symm
  | cons r requests ih =>
      rw [List.mem_cons, not_or] at unset
      rw [log, ih unset.2, logged_of_ne_reset (Ne.symm unset.1), attempts, succeeded, succeeded,
        succeeded, List.filter_append, List.map_append, List.append_assoc]

/-- After a reset only what followed it counts. -/
theorem log_of_last_reset {later : List Request} (unset : .reset ∉ later) (c : Cpu δ)
    (words : List Instruction) (before : List Request) :
    c.log words (before ++ .reset :: later) =
      succeeded ((c.performAll (before ++ [.reset])).attempts later) := by
  induction before generalizing c words with
  | nil => exact log_of_no_reset unset _ []
  | cons r before ih => exact ih (c.perform r).state (c.logged words r)

/-! ## The books -/

/-- The machine tells how many words ran, and which was the last. -/
structure Books (c : Cpu δ) (words : List Instruction) : Prop where
  cycles : c.cycles = words.length
  last : c.last = words.getLast?

theorem last_of_error {e : Stop} (failed : c.step.result = .error e) :
    c.step.state.last = c.last := by
  have h := stepped c
  change c.step.toAttempt.result = _ at failed
  change c.step.toAttempt.state.last = _
  generalize c.step.toAttempt = a at h failed
  cases h with
  | unfetched => rfl
  | unassigned => rfl
  | unplaced => rfl
  | failed _ execution => exact execution.keeps.last
  | ran => cases failed

theorem last_of_ok (sound : c.Sound) {op : Opcode} (ok : c.step.result = .ok op) :
    c.step.state.last = some c.store.word := by
  obtain ⟨i, flow, done, store, ran⟩ := exists_of_step_ok ok
  obtain rfl := Except.ok.inj (sound.store.fetched.symm.trans ran.ready.fetched)
  rw [ran.state]

theorem Books.of_ok (books : c.Books words) (sound : c.Sound) {op : Opcode}
    (ok : c.step.result = .ok op) : c.step.state.Books (words ++ [c.store.word]) where
  cycles := by
    rw [cycles_step ⟨op, ok⟩, books.cycles, List.length_append]
    rfl
  last := by
    rw [last_of_ok sound ok, List.getLast?_concat]

theorem Books.of_error (books : c.Books words) {e : Stop} (failed : c.step.result = .error e) :
    c.step.state.Books words where
  cycles := (cycles_failed_step failed).trans books.cycles
  last := (last_of_error failed).trans books.last

theorem Books.steps (books : c.Books words) (sound : c.Sound) (n : Nat) :
    (c.steps n).state.Books (words ++ succeeded (c.tries n)) := by
  induction n generalizing c words with
  | zero =>
      rw [tries, append_succeeded_nil]
      exact books
  | succ n ih =>
      cases result : c.step.result with
      | error stop =>
          rw [steps_succ_of_error result, tries_succ_of_error result,
            succeeded_cons_of_error result, append_succeeded_nil]
          exact books.of_error result
      | ok op =>
          rw [steps_succ_of_ok result, tries_succ_of_ok result, succeeded_cons_of_ok result,
            ← List.singleton_append, ← List.append_assoc]
          exact ih (books.of_ok sound result) (sound.perform .step)

theorem Books.perform (books : c.Books words) (sound : c.Sound)
    (working : Display.Working c.display) (r : Request) :
    (c.perform r).state.Books (c.logged words r) := by
  have quiet (a : Attempt Fault Keypad Unit) :
      (c.withKeypad a).state.Books (words ++ succeeded ([] : List (Cpu δ))) := by
    rw [append_succeeded_nil]
    exact ⟨books.cycles, books.last⟩
  have kept : c.Books (words ++ succeeded ([] : List (Cpu δ))) := by
    rwa [append_succeeded_nil]
  cases r with
  | step =>
      change c.step.state.Books (words ++ succeeded (c.tries 1))
      rw [tries_one]
      cases result : c.step.result with
      | error e =>
          rw [succeeded_cons_of_error result, append_succeeded_nil]
          exact books.of_error result
      | ok op =>
          rw [succeeded_cons_of_ok result]
          exact books.of_ok sound result
  | batch count => exact books.steps sound count
  | press key => exact quiet _
  | release key => exact quiet _
  | releaseAll => exact quiet _
  | setDialect dialect => exact ⟨kept.cycles, kept.last⟩
  | setPixel offset value => exact ⟨kept.cycles, kept.last⟩
  | reset =>
      change c.reset.state.Books []
      rw [Cpu.reset, working.clears .self]
      exact ⟨rfl, rfl⟩

theorem working_perform (working : Display.Working c.display) (r : Request) :
    Display.Working (c.perform r).state.display := by
  refine keeps_display_perform ?_ ?_ working r
  · intro d o value working
    exact working.of_becomes (.set .self o value)
  · intro d working
    exact working.of_becomes (.clear .self)

theorem Books.performAll (books : c.Books words) (sound : c.Sound)
    (working : Display.Working c.display) (requests : List Request) :
    (c.performAll requests).Books (c.log words requests) := by
  induction requests generalizing c words with
  | nil => exact books
  | cons r requests ih =>
      exact ih (books.perform sound working r) (sound.perform r) (working_perform working r)

/-! ## Words that are not assigned -/

/-- An attempt that finds an unassigned word tells it and the last instruction, and changes
nothing. -/
theorem unassigned_of_step (faults : Display.RangeFaults δ) (sound : c.Sound) {i : Instruction}
    {previous : Option Instruction}
    (failed : c.step.result = .error (.fault (.unassigned i previous))) :
    i = c.store.word ∧ previous = c.last ∧ c.step.state = c := by
  have h := stepped c
  change c.step.toAttempt.result = _ at failed
  change _ ∧ _ ∧ c.step.toAttempt.state = c
  generalize c.step.toAttempt = a at h failed
  cases h with
  | unfetched unfetched =>
      rw [sound.store.fetched] at unfetched
      cases unfetched
  | unassigned fetched =>
      cases failed
      exact ⟨Except.ok.inj (fetched.symm.trans sound.store.fetched), rfl, rfl⟩
  | unplaced => cases failed
  | failed _ execution =>
      cases failed
      exact absurd (execution.of_error faults).1 id
  | ran => cases failed

theorem error_of_map {α β : Type} {e : Except Stop α} {f : α → β} {stop : Stop}
    (failed : e.map f = .error stop) : e = .error stop := by
  cases e with
  | error other => exact congrArg _ (Except.error.inj failed)
  | ok a => cases failed

/-- A request that runs into an unassigned word tells it and the last instruction, as they stand
when it is done. -/
theorem unassigned_of_perform (faults : Display.RangeFaults δ) (sound : c.Sound) {r : Request}
    (steps : r.Steps) {i : Instruction} {previous : Option Instruction}
    (failed : (c.perform r).result = .error (.fault (.unassigned i previous))) :
    i = (c.perform r).state.store.word ∧ previous = (c.perform r).state.last := by
  cases r with
  | step =>
      obtain ⟨word, last, same⟩ := unassigned_of_step faults sound (error_of_map failed)
      change i = c.step.state.store.word ∧ previous = c.step.state.last
      rw [same]
      exact ⟨word, last⟩
  | batch count =>
      have failed : (c.steps count).result = _ := error_of_map (error_of_map failed)
      obtain ⟨s, hs, failure⟩ := steps_error_iff.mp failed
      have sound : (c.after s).Sound := by
        rw [← (steps_of_runs failure.runs).2]
        exact sound.perform (.batch s)
      obtain ⟨word, last, same⟩ := unassigned_of_step faults sound failure.fails
      change i = (c.steps count).state.store.word ∧ previous = (c.steps count).state.last
      rw [(steps_of_failsAfter failure hs).2, after_succ, same]
      exact ⟨word, last⟩
  | _ => cases steps

theorem count_of_batch {n : Nat} {reply : Reply}
    (done : (c.perform (.batch n)).result = .ok reply) : reply = .count n := by
  rcases runs_or_failsAfter c n with runs | ⟨s, hs, e, failure⟩
  · have ran : (c.perform (.batch n)).result = .ok (.count n) := by
      rw [perform, (runBatch_of_runs runs).1]
      rfl
    exact Except.ok.inj (done.symm.trans ran)
  · have failed : (c.perform (.batch n)).result = .error e := by
      rw [perform, (runBatch_of_failsAfter failure hs).1]
      rfl
    rw [failed] at done
    cases done

/-! ## The trace -/

/-- What the trace takes of an attempt: PC and the word there, as they stand when it begins. -/
def record (c : Cpu δ) : UInt16 × Instruction := (c.store.registers.pc, c.store.word)

theorem trace_step (sound : c.Sound) : c.step.events.filterMap Event.trace? = [c.record] := by
  rw [step, sound.store.fetched]
  dsimp only
  cases c.store.word.decode? with
  | none => rfl
  | some op => rfl

theorem trace_attempts {made : List (Cpu δ)} (sound : ∀ m ∈ made, m.Sound) :
    (made.flatMap fun m => m.step.events).filterMap Event.trace? = made.map record := by
  induction made with
  | nil => rfl
  | cons m made ih =>
      rw [List.flatMap_cons, List.filterMap_append, trace_step (sound m (.head _)),
        ih fun m membership => sound m (.tail _ membership)]
      rfl

theorem trace_perform (sound : c.Sound) (r : Request) :
    (c.perform r).events.filterMap Event.trace? = (c.attemptsOf r).map record := by
  have attempted := attempts_induction (fun _ r sound => sound.perform r) sound [r]
  rw [attempts, attempts, List.append_nil] at attempted
  rw [← trace_attempts attempted]
  cases r with
  | step => rw [attemptsOf, tries_one, List.flatMap_singleton]; rfl
  | batch count => rw [attemptsOf, ← events_steps]; rfl
  | press key => rfl
  | release key => rfl
  | releaseAll => rfl
  | setDialect dialect => rfl
  | setPixel offset value => rfl
  | reset =>
      change c.reset.events.filterMap Event.trace? = []
      rw [Cpu.reset]
      split
      · rfl
      · rfl

/-- The trace of a history. -/
def trace (c : Cpu δ) (requests : List Request) : List (UInt16 × Instruction) :=
  ((c.transcript requests).flatMap (·.2)).filterMap Event.trace?

/-- The trace takes one record of each attempt, in order. -/
theorem trace_eq (sound : c.Sound) (requests : List Request) :
    c.trace requests = (c.attempts requests).map record := by
  induction requests generalizing c with
  | nil => rfl
  | cons r requests ih =>
      have later : ((c.perform r).state.trace requests) = _ := ih (sound.perform r)
      rw [trace] at later ⊢
      rw [transcript, List.flatMap_cons, List.filterMap_append, later, trace_perform sound,
        attempts, List.map_append]

/-! ## The whole history -/

/-- What a machine and its trace tell after a history is what happened. -/
structure Truthful (c : Cpu δ) (requests : List Request) : Prop where
  cycles : (c.performAll requests).cycles = (c.log [] requests).length
  last : (c.performAll requests).last = (c.log [] requests).getLast?
  /-- An unassigned word is the one at PC, and the word told with it is the last that ran. -/
  unassigned : ∀ {r : Request} {i previous}, r.Steps →
    ((c.performAll requests).perform r).result = .error (.fault (.unassigned i previous)) →
      (c.performAll (requests ++ [r])).store.AtPc i ∧
        previous = (c.log [] (requests ++ [r])).getLast?
  counted : ∀ {n reply}, ((c.performAll requests).perform (.batch n)).result = .ok reply →
    reply = .count n
  trace : c.trace requests = (c.attempts requests).map record
  recorded : ∀ m ∈ c.attempts requests, m.store.AtPc m.record.2

/-- Nothing has run on the machine, as far as it tells. -/
theorem truthful_of_books (books : c.Books []) (sound : c.Sound)
    (working : Display.Working c.display) (requests : List Request) : c.Truthful requests := by
  have kept := books.performAll sound working
  refine ⟨(kept requests).cycles, (kept requests).last, ?_, count_of_batch, trace_eq sound requests,
    ?_⟩
  · intro r i previous steps failed
    have left : c.performAll (requests ++ [r]) = ((c.performAll requests).perform r).state := by
      rw [performAll, List.foldl_append]
      rfl
    have sound := sound.performAll requests
    obtain ⟨word, last⟩ := unassigned_of_perform working.faults sound steps failed
    rw [← (kept (requests ++ [r])).last, left, word]
    exact ⟨(sound.perform r).store.atPc, last⟩
  · intro m membership
    have sound := attempts_induction (fun _ r sound => sound.perform r) sound requests m membership
    exact sound.store.atPc

/-- The diagnostics of a machine over an accepted program and a working display are truthful in
every history. -/
theorem diagnostics_truthful {program : List UInt8} {loaded : Store}
    (accepted : Store.ofProgram? program = .ok loaded) (ops : List Store.Operation) {display : δ}
    (working : Display.Working display) (seed : UInt64) (requests : List Request) :
    (Cpu.new (loaded.performAll ops) display seed).Truthful requests := by
  have store := (Store.Sound.ofProgram? accepted).performAll ops
  exact truthful_of_books ⟨rfl, rfl⟩ (.new store display seed) working requests

/-- Loads 7 into V0 and runs into a word that is not assigned. -/
def sevenThenNothing : Cpu FrameBuffer :=
  .new ⟨.image [0x60, 0x07, 0xFF, 0xFF], .initial, [0x60, 0x07, 0xFF, 0xFF], .below255⟩
    (.blank 64 32) 0

/-- What a machine does with the two bytes at the entry point of `sevenThenNothing`. -/
theorem step_sevenThenNothing {m : Cpu FrameBuffer}
    (image : m.store.memory = .image [0x60, 0x07, 0xFF, 0xFF])
    (pc : m.store.registers.pc = 0x200) :
    m.store.instruction = .ok ⟨0x60, 0x07⟩ ∧
      m.step.toAttempt = ⟨.ok (.loadByte 0 7), { m.tickTimers with
        store := (m.tickTimers.store.put 0 7).withPc 0x202
        cycles := m.cycles + 1
        last := some ⟨0x60, 0x07⟩ }⟩ := by
  have fetched : m.store.instruction = .ok ⟨0x60, 0x07⟩ :=
    Store.instruction_of_image (k := 0) image (by rw [pc]; rfl) rfl rfl (by decide)
  have placed : checkFallThrough m.store.registers.pc (.loadByte 0 7) = .ok () := by
    rw [pc]
    rfl
  have effect : m.tickTimers.execute (.loadByte 0 7) =
      m.tickTimers.thenNext ⟨.ok (), m.tickTimers.store.put 0 7⟩ :=
    congrArg m.tickTimers.thenNext (Store.setV_eq m.tickTimers.store 7 (by decide))
  refine ⟨fetched, ?_⟩
  rw [step_of_thenNext ⟨fetched, rfl, placed⟩ rfl effect rfl, pc]
  rfl

/-- After a reset the count starts at zero.  The failed step is traced and not counted. -/
theorem seven_counted_afresh :
    (sevenThenNothing.performAll [.step, .reset, .step, .batch 2]).cycles = 1 ∧
      (sevenThenNothing.performAll [.step, .reset, .step, .batch 2]).last =
        some ⟨0x60, 0x07⟩ ∧
      sevenThenNothing.trace [.step, .reset, .step, .batch 2] =
        [(0x200, ⟨0x60, 0x07⟩), (0x200, ⟨0x60, 0x07⟩), (0x202, ⟨0xFF, 0xFF⟩)] := by
  have accepted : Store.ofProgram? [0x60, 0x07, 0xFF, 0xFF] =
      .ok ⟨.image [0x60, 0x07, 0xFF, 0xFF], .initial, [0x60, 0x07, 0xFF, 0xFF], .below255⟩ := rfl
  have truthful : sevenThenNothing.Truthful [.step, .reset, .step, .batch 2] :=
    diagnostics_truthful accepted [] (FrameBuffer.working _) 0 _
  have sound : sevenThenNothing.Sound := .new (Store.Sound.ofProgram? accepted) _ 0
  -- Three machines attempt a step: the first, the one after the reset, and the one after that.
  obtain ⟨fetched, first⟩ := step_sevenThenNothing (m := sevenThenNothing) rfl rfl
  obtain ⟨again, restart⟩ : ∃ again, sevenThenNothing.step.state.reset.state = again := ⟨_, rfl⟩
  have image : again.store.memory = .image [0x60, 0x07, 0xFF, 0xFF] := by
    have program : sevenThenNothing.step.state.store.program = [0x60, 0x07, 0xFF, 0xFF] :=
      congrArg (fun left => left.state.store.program) first
    rw [← restart, store_reset, Store.reset, program]
  have pc : again.store.registers.pc = 0x200 := by
    rw [← restart, store_reset]
    rfl
  obtain ⟨fetchedAgain, second⟩ := step_sevenThenNothing image pc
  obtain ⟨next, left⟩ : ∃ next, again.step.state = next := ⟨_, rfl⟩
  have state : next = _ := left.symm.trans (congrArg Attempt.state second)
  have nextPc : next.store.registers.pc = 0x202 := by
    rw [state]
    rfl
  have unassigned : next.store.instruction = .ok ⟨0xFF, 0xFF⟩ := by
    have image : next.store.memory = .image [0x60, 0x07, 0xFF, 0xFF] := by
      rw [state]
      exact image
    exact Store.instruction_of_image (k := 2) image (by rw [nextPc]; rfl) rfl rfl (by decide)
  have failed : next.step.toAttempt =
      ⟨.error (.fault (.unassigned ⟨0xFF, 0xFF⟩ next.last)), next⟩ := by
    rw [step, unassigned]
    rfl
  have made : again.attempts [.step, .batch 2] = [again, next] := by
    have once : next.tries 2 = [next] := tries_succ_of_error (congrArg Attempt.result failed) 1
    simp only [attempts, attemptsOf, tries_one, perform_step_state, left, once]
    rfl
  have madeAll : sevenThenNothing.attempts [.step, .reset, .step, .batch 2] =
      sevenThenNothing :: again.attempts [.step, .batch 2] := by
    simp only [attempts, attemptsOf, tries_one, perform_step_state, perform_reset_state, restart]
    rfl
  have restarted : sevenThenNothing.performAll [.step, .reset] = again := by
    rw [← restart, performAll, List.foldl_cons, List.foldl_cons, List.foldl_nil,
      perform_step_state, perform_reset_state]
  -- The step before the reset does not count.
  have counted : sevenThenNothing.log [] [.step, .reset, .step, .batch 2] =
      [again.store.word] := by
    rw [show [.step, .reset, .step, .batch 2] = [Request.step] ++ .reset :: [.step, .batch 2]
      from rfl, log_of_last_reset (by decide), List.singleton_append, restarted, made,
      succeeded_cons_of_ok (congrArg Attempt.result second),
      succeeded_cons_of_error (congrArg Attempt.result failed)]
    rfl
  have soundAgain : again.Sound := by
    rw [← restarted]
    exact sound.performAll [.step, .reset]
  have soundNext : next.Sound := by
    rw [← left]
    exact soundAgain.perform .step
  have word := Except.ok.inj (sound.store.fetched.symm.trans fetched)
  have wordAgain := Except.ok.inj (soundAgain.store.fetched.symm.trans fetchedAgain)
  have wordNext := Except.ok.inj (soundNext.store.fetched.symm.trans unassigned)
  obtain ⟨cycles, last, -, -, trace, -⟩ := truthful
  rw [counted] at cycles last
  rw [wordAgain] at last
  refine ⟨cycles, last, ?_⟩
  rw [trace, madeAll, made, List.map_cons, List.map_cons, List.map_singleton, record, record,
    record, word, wordAgain, wordNext, pc, nextPc]
  rfl

end Cpu

end Chip8
