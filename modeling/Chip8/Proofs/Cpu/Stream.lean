import Chip8.Proofs.Cpu.Confinement
import Chip8.Proofs.Cpu.History

/-!
# The stream of random bytes

A seed fixes a stream of bytes, and in a history of the machine each of them goes to one
instruction.  The instruction that takes the next byte is the next random one that
succeeds, under whatever mask.  Nothing else takes a byte or gives one back: no other
opcode, no attempt that fails, and no request that attempts no step, such as a reset.

The source is at the number of bytes taken so far (`random_of_row`), so the byte that an
instruction stores can be told from the number of random ones before it
(`stream_aligned`).
-/

namespace Chip8.Cpu

variable {δ : Type}

/-! ## Taking a byte -/

/-- No other opcode names the source. -/
theorem exists_random_of_source {c : Cpu δ} {op : Opcode} (named : .random ∈ c.writes op) :
    ∃ x mask, op = .random x mask := by
  cases op with
  | random x mask => exact ⟨x, mask, rfl⟩
  | storeDigits x =>
      obtain ⟨a, same⟩ := exists_byte_of_storeDigits named
      cases same
  | _ => simp [writes] at named

variable [Display δ] {c e : Cpu δ}

/-- Whether an attempt takes a byte of the stream. -/
def takes (c : Cpu δ) : Bool :=
  match c.step.result with
  | .ok (.random _ _) => true
  | _ => false

/-- How many bytes some attempts take. -/
def taken (made : List (Cpu δ)) : Nat := made.countP takes

theorem taken_cons (c : Cpu δ) (made : List (Cpu δ)) :
    taken (c :: made) = (if c.takes then 1 else 0) + taken made := by
  rw [taken, List.countP_cons, Nat.add_comm]
  rfl

theorem takes_of_ok {x mask : UInt8} (ok : c.step.result = .ok (.random x mask)) :
    c.takes = true := by
  rw [takes, ok]

theorem exists_of_takes (takes : c.takes = true) :
    ∃ x mask, c.step.result = .ok (.random x mask) := by
  rw [Cpu.takes] at takes
  split at takes
  next x mask ok => exact ⟨x, mask, ok⟩
  next => cases takes

theorem not_touches_source (takes : c.takes = false) : ¬ c.Touches .random := by
  intro touches
  cases touches with
  | done ok named =>
      obtain ⟨x, mask, rfl⟩ := exists_random_of_source named
      rw [takes_of_ok ok] at takes
      cases takes
  | drawn ready plane => cases plane

theorem execute_random (c : Cpu δ) {x : UInt8} (inRange : x.toNat < 16) (mask : UInt8) :
    c.execute (.random x mask) =
      ⟨.ok .next, { c with
        random := c.random.next.2, store := c.store.put x (c.random.next.1 &&& mask) }⟩ := by
  change Cpu.thenNext { c with random := c.random.next.2 }
    (c.store.setV x (c.random.next.1 &&& mask).toUInt16) = _
  rw [Store.setV_eq _ _ inRange, UInt8.toUInt8_toUInt16]
  rfl

/-- A random instruction that passes the checks succeeds.  It stores the byte that the source is
at. -/
theorem step_of_ready_random {i : Instruction} {x mask : UInt8}
    (ready : Ready c i (.random x mask)) :
    c.step.toAttempt =
      ⟨.ok (.random x mask), { c.tickTimers with
        random := c.random.next.2
        store := (c.tickTimers.store.put x (c.random.next.1 &&& mask)).withPc
          (.ofNat (c.store.registers.pc.toNat + 2))
        cycles := c.cycles + 1
        last := some i }⟩ := by
  have executed := execute_random c.tickTimers ready.inRange mask
  have followed := Store.follow_next_of_valid
    (s := (c.tickTimers.execute (.random x mask)).state.store)
    (by rw [executed]; exact place_of_falls ready.placed rfl)
  rw [step_of_decoded ready.fetched ready.decoded, runDecoded_eq, ready.placed]
  dsimp only
  rw [executeAndMove_of_ok (congrArg Attempt.result executed), followed, executed]
  rfl

/-- The byte that a random instruction takes is the one the source is at. -/
theorem step_of_random {x mask : UInt8} (ok : c.step.result = .ok (.random x mask)) :
    c.step.state.random = c.random.next.2 ∧
      c.step.state.store.value x = c.random.next.1 &&& mask := by
  obtain ⟨i, flow, done, store, ran⟩ := exists_of_step_ok ok
  rw [show c.step.state = _ from congrArg Attempt.state (step_of_ready_random ran.ready)]
  exact ⟨rfl, (Store.value_put _ _ ran.ready.inRange x).trans (if_pos rfl)⟩

/-- An attempt moves the source on by the byte it takes, if it takes one. -/
theorem random_step (c : Cpu δ) :
    c.step.state.random = ⟨c.random.key, c.random.position + if c.takes then 1 else 0⟩ := by
  cases takes : c.takes with
  | true =>
      obtain ⟨x, mask, ok⟩ := exists_of_takes takes
      exact (step_of_random ok).1
  | false =>
      have kept : Kept c.passing c c.step.state .random := kept_step (not_touches_source takes)
      exact kept

/-! ## Histories -/

theorem random_perform (c : Cpu δ) (r : Request) (quiet : ¬ r.Steps) :
    (c.perform r).state.random = c.random := by
  cases r with
  | step => exact absurd trivial quiet
  | batch count => exact absurd trivial quiet
  | press key => rfl
  | release key => rfl
  | releaseAll => rfl
  | setDialect dialect => rfl
  | setPixel offset value => rfl
  | reset =>
      change c.reset.state.random = c.random
      rw [Cpu.reset]
      split
      · rfl
      · rfl

/-- After any attempts the source is on by the bytes they took. -/
theorem random_of_row {made : List (Cpu δ)} (row : Row Cpu.random c made e) :
    e.random = ⟨c.random.key, c.random.position + taken made⟩ := by
  induction row with
  | none kept => exact kept
  | cons kept _ ih =>
      rw [ih, random_step, kept, taken_cons, ← Nat.add_assoc]

/-- The bytes of the stream with a key go to the random instructions of a history in order. -/
structure Aligned (key : Vector UInt32 8) (c : Cpu δ) (requests : List Request) : Prop where
  /-- A random instruction stores the byte after those that were taken before it. -/
  stored : ∀ {before m later x mask}, c.attempts requests = before ++ m :: later →
    m.step.result = .ok (.random x mask) →
      m.step.state.store.value x = Random.byteAt key (taken before) &&& mask
  /-- Every attempt finds the source after the bytes that were taken before it, and leaves it
  there unless it takes one itself. -/
  source : ∀ {before m later}, c.attempts requests = before ++ m :: later →
    m.random = ⟨key, taken before⟩ ∧
      m.step.state.random = ⟨key, taken before + if m.takes then 1 else 0⟩
  /-- The machine is left with the source after all the bytes that were taken. -/
  left : (c.performAll requests).random = ⟨key, taken (c.attempts requests)⟩
  /-- A request that attempts no step then leaves the source where it is. -/
  quiet : ∀ r, ¬ Request.Steps r →
    ((c.performAll requests).perform r).state.random = (c.performAll requests).random

/-- After a seed every history is aligned with the stream of the seed. -/
theorem stream_aligned {seed : UInt64} (seeded : c.random = .ofSeed seed)
    (requests : List Request) : c.Aligned (Random.keyOfSeed seed) requests := by
  have row : Row Cpu.random c (c.attempts requests) (c.performAll requests) :=
    row_performAll random_perform c requests
  have at_row {made : List (Cpu δ)} {m : Cpu δ} (row : Row Cpu.random c made m) :
      m.random = ⟨Random.keyOfSeed seed, taken made⟩ := by
    rw [random_of_row row, seeded, Random.ofSeed, Nat.zero_add]
  have found {before later : List (Cpu δ)} {m : Cpu δ}
      (split : c.attempts requests = before ++ m :: later) :
      m.random = ⟨Random.keyOfSeed seed, taken before⟩ := by
    rw [split] at row
    exact at_row row.before
  refine ⟨?_, ?_, at_row row, fun r => random_perform _ r⟩
  · intro before m later x mask split ok
    rw [(step_of_random ok).2, Random.next_fst, found split]
  · intro before m later split
    refine ⟨found split, ?_⟩
    rw [random_step, found split]

/-- Takes a byte under an empty mask, then one under a full mask. -/
def twoDraws : Cpu FrameBuffer :=
  .new ⟨.image [0xC0, 0x00, 0xC1, 0xFF], .initial, [0xC0, 0x00, 0xC1, 0xFF], .below255⟩
    (.blank 64 32) 7

theorem ready_twoDraws {c : Cpu FrameBuffer} (memory : c.store.memory = twoDraws.store.memory)
    (pc : c.store.registers.pc = 0x200) : Ready c ⟨0xC0, 0x00⟩ (.random 0 0) where
  fetched := Store.instruction_of_image (k := 0) memory (by rw [pc]; rfl) rfl rfl (by decide)
  decoded := rfl
  placed := by
    rw [pc]
    rfl

/-- The full mask gets the third byte: two went to the empty one, before and after a reset. -/
theorem full_mask_after_two_empty :
    twoDraws.random = .ofSeed 7 ∧
      (twoDraws.performAll [.step, .reset, .step, .step]).store.value 1 =
        Random.byteAt (Random.keyOfSeed 7) 2 &&& 0xFF := by
  have first := step_of_ready_random (ready_twoDraws (c := twoDraws) rfl rfl)
  have program : twoDraws.step.state.store.program = twoDraws.store.program :=
    congrArg (fun a => a.state.store.program) first
  obtain ⟨again, reset⟩ : ∃ again, twoDraws.step.state.reset.state = again := ⟨_, rfl⟩
  have image : again.store.memory = twoDraws.store.memory := by
    rw [← reset, store_reset, Store.reset, program]
    rfl
  have pc : again.store.registers.pc = 0x200 := by
    rw [← reset, store_reset]
    rfl
  have second := step_of_ready_random (ready_twoDraws image pc)
  obtain ⟨last, left⟩ : ∃ last, again.step.state = last := ⟨_, rfl⟩
  have image : last.store.memory = twoDraws.store.memory := by
    rw [← left, ← image]
    exact congrArg (fun a => a.state.store.memory) second
  have pc : last.store.registers.pc = 0x202 := by
    have moved : again.step.state.store.registers.pc =
        .ofNat (again.store.registers.pc.toNat + 2) :=
      congrArg (fun a => a.state.store.registers.pc) second
    rw [← left, moved, pc]
    rfl
  have ready : Ready last ⟨0xC1, 0xFF⟩ (.random 1 0xFF) :=
    ⟨Store.instruction_of_image (k := 2) image (by rw [pc]; rfl) rfl rfl (by decide), rfl,
      by rw [pc]; rfl⟩
  have made : twoDraws.attempts [.step, .reset, .step, .step] = [twoDraws, again] ++ [last] := by
    simp only [attempts, attemptsOf, tries_one, perform_step_state, perform_reset_state, reset,
      left]
    rfl
  have taken : taken [twoDraws, again] = 2 := by
    rw [taken_cons, taken_cons, takes_of_ok (congrArg Attempt.result first),
      takes_of_ok (congrArg Attempt.result second)]
    rfl
  have aligned : twoDraws.Aligned (Random.keyOfSeed 7) [.step, .reset, .step, .step] :=
    stream_aligned rfl _
  have stored := aligned.stored made (congrArg Attempt.result (step_of_ready_random ready))
  rw [taken] at stored
  refine ⟨rfl, ?_⟩
  simp only [performAll_cons, performAll_nil, perform_step_state, perform_reset_state, reset, left]
  exact stored

end Chip8.Cpu
