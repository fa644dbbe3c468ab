import Chip8.Proofs.Cpu.Execution
import Chip8.Proofs.Cpu.Ticking

/-!
# What a step leaves

A step ends in one of five ways, and `Cpu.Stepped` lists them with everything
that each leaves: three are rejections before the timers tick, one is a failure
after the tick, and one is a success.  `stepped` proves that there is no other.

`executed_of_failed_move` reduces a failure after the tick to a failed execution.
The only way to fail after a successful execution is a skip with no place to go
to, and a skip has changed nothing yet.
-/

namespace Chip8.Cpu

variable {δ : Type} {c : Cpu δ} {i : Instruction} {op : Opcode}

/-! ## Before the tick -/

/-- The instruction at PC is there, has an opcode, and has the place after it that the opcode
needs. -/
structure Ready (c : Cpu δ) (i : Instruction) (op : Opcode) : Prop where
  fetched : c.store.instruction = .ok i
  decoded : i.decode? = some op
  placed : checkFallThrough c.store.registers.pc op = .ok ()

theorem Ready.inRange (ready : Ready c i op) : op.InRange :=
  Instruction.inRange_of_decode? ready.decoded

theorem checkFallThrough_eq (pc : UInt16) (op : Opcode) :
    checkFallThrough pc op =
      if op.branches = true ∨ CodeAddress.Valid (pc.toNat + 2) then .ok ()
      else .error (.badTarget (pc.toNat + 2)) := by
  rw [checkFallThrough, show ((pc.toNat : Int) + 2) = (pc.toNat + 2 : Nat) from rfl,
    CodeAddress.check_natCast]
  cases op.branches with
  | true => simp
  | false =>
      by_cases valid : CodeAddress.Valid (pc.toNat + 2)
      · simp [valid, Except.map]
      · simp [valid, Except.map]

theorem checkFallThrough_eq_ok_iff {pc : UInt16} :
    checkFallThrough pc op = .ok () ↔
      op.branches = true ∨ CodeAddress.Valid (pc.toNat + 2) := by
  rw [checkFallThrough_eq]
  split <;> simp_all

/-- An instruction that does not branch and passed the check has its place. -/
theorem place_of_falls {pc : UInt16} (placed : checkFallThrough pc op = .ok ())
    (falls : op.branches = false) : CodeAddress.Valid (pc.toNat + 2) := by
  have place := checkFallThrough_eq_ok_iff.mp placed
  rwa [falls, or_iff_right Bool.false_ne_true] at place

theorem checkFallThrough_fault {pc : UInt16} {f : Fault}
    (failed : checkFallThrough pc op = .error f) :
    op.branches = false ∧ ¬ CodeAddress.Valid (pc.toNat + 2) ∧ f = .badTarget (pc.toNat + 2) := by
  rw [checkFallThrough_eq] at failed
  split at failed
  next => cases failed
  next rejected =>
    cases failed
    rw [not_or, Bool.not_eq_true] at rejected
    exact ⟨rejected.1, rejected.2, rfl⟩

/-! ## Moving PC after an execution -/

variable [Display δ]

theorem executeAndMove_of_error {e : Stop} (failed : (c.execute op).result = .error e) :
    c.executeAndMove op = ⟨.error e, (c.execute op).state⟩ := by
  rw [executeAndMove, Attempt.andThen]
  simp only [failed]

theorem executeAndMove_of_ok {flow : Flow} (done : (c.execute op).result = .ok flow) :
    c.executeAndMove op =
      (c.execute op).state.withStore ((c.execute op).state.store.follow flow) := by
  rw [executeAndMove, Attempt.andThen]
  simp only [done]

/-- Moving PC after a successful execution either works or leaves the state of the execution. -/
theorem executeAndMove_cases {flow : Flow} (done : (c.execute op).result = .ok flow) :
    (∃ pc : UInt16, CodeAddress.Valid pc.toNat ∧ c.executeAndMove op =
        ⟨.ok (), { (c.execute op).state with store := (c.execute op).state.store.withPc pc }⟩) ∨
      ∃ a, (c.execute op).state.store.follow flow =
          ⟨.error (.badTarget a), (c.execute op).state.store⟩ ∧
        c.executeAndMove op = ⟨.error (.fault (.badTarget a)), (c.execute op).state⟩ := by
  rw [executeAndMove_of_ok done]
  obtain ⟨pc, valid, moved⟩ | stuck := (c.execute op).state.store.follow_cases flow
  · rw [moved]
    exact .inl ⟨pc, valid, rfl⟩
  · rw [stuck]
    exact .inr ⟨_, rfl, rfl⟩

/-- Where an instruction that goes on has its place, PC can only be stuck after an execution that
has changed nothing, which is that of a skip. -/
theorem Executed.unchanged_of_stuck {flow : Flow} {c' : Cpu δ} {f : Fault} {left : Store}
    (execution : Executed c op ⟨.ok flow, c'⟩)
    (placed : checkFallThrough c.store.registers.pc op = .ok ())
    (stuck : c'.store.follow flow = ⟨.error f, left⟩) : c' = c := by
  cases execution with
  | next falls keeps =>
      -- The place after it was checked before the tick, and PC has not moved since.
      have valid := place_of_falls placed falls
      rw [Store.follow_next_of_valid (by rwa [keeps.pc])] at stuck
      cases stuck
  | skip => rfl
  | jump => rfl
  | call _ valid _ =>
      rw [Store.follow, Store.jump_of_valid _ valid] at stuck
      cases stuck
  | ret _ _ _ valid =>
      rw [Store.follow, Store.jump_of_valid _ valid] at stuck
      cases stuck

/-- A failed execution and move leaves what a failed execution can leave. -/
theorem executed_of_failed_move (inRange : op.InRange)
    (placed : checkFallThrough c.store.registers.pc op = .ok ()) {e : Stop}
    (failed : (c.executeAndMove op).result = .error e) :
    Executed c op ⟨.error e, (c.executeAndMove op).state⟩ := by
  cases done : (c.execute op).result with
  | error e' =>
      rw [executeAndMove_of_error done] at failed ⊢
      cases failed
      exact executed_of_result c inRange done
  | ok flow =>
      obtain ⟨pc, -, moved⟩ | ⟨f, stuck, moved⟩ := executeAndMove_cases done
      · rw [moved] at failed
        cases failed
      · rw [moved] at failed ⊢
        cases failed
        rw [(executed_of_result c inRange done).unchanged_of_stuck placed stuck]
        exact .failed trivial

/-- A move that was done followed a successful execution to a valid place. -/
theorem executed_of_move (inRange : op.InRange) (moved : (c.executeAndMove op).result = .ok ()) :
    ∃ flow c', ∃ pc : UInt16, Executed c op ⟨.ok flow, c'⟩ ∧ CodeAddress.Valid pc.toNat ∧
      (c.executeAndMove op).state = { c' with store := c'.store.withPc pc } := by
  cases done : (c.execute op).result with
  | error e =>
      rw [executeAndMove_of_error done] at moved
      cases moved
  | ok flow =>
      obtain ⟨pc, valid, state⟩ | ⟨f, -, stuck⟩ := executeAndMove_cases done
      · rw [state]
        exact ⟨flow, _, pc, executed_of_result c inRange done, valid, rfl⟩
      · rw [stuck] at moved
        cases moved

/-! ## The five ways -/

/-- What a step can leave. -/
inductive Stepped (c : Cpu δ) : Attempt Stop (Cpu δ) Opcode → Prop where
  /-- There was no instruction at PC. -/
  | unfetched {f : Fault} (unfetched : c.store.instruction = .error f) :
      Stepped c ⟨.error (.fault f), c⟩
  /-- No opcode has the word at PC. -/
  | unassigned {i : Instruction} (fetched : c.store.instruction = .ok i)
      (undecoded : i.decode? = none) :
      Stepped c ⟨.error (.fault (.unassigned i c.last)), c⟩
  /-- There was no place for the instruction after it. -/
  | unplaced {i : Instruction} {op : Opcode} (fetched : c.store.instruction = .ok i)
      (decoded : i.decode? = some op) (falls : op.branches = false)
      (outside : ¬ CodeAddress.Valid (c.store.registers.pc.toNat + 2)) :
      Stepped c ⟨.error (.fault (.badTarget (c.store.registers.pc.toNat + 2))), c⟩
  /-- The timers ticked, and the execution failed. -/
  | failed {i : Instruction} {op : Opcode} {e : Stop} {c' : Cpu δ} (ready : Ready c i op)
      (execution : Executed c.tickTimers op ⟨.error e, c'⟩) : Stepped c ⟨.error e, c'⟩
  /-- The timers ticked, the execution was done, and PC moved. -/
  | ran {i : Instruction} {op : Opcode} {flow : Flow} {c' : Cpu δ} {pc : UInt16}
      (ready : Ready c i op) (execution : Executed c.tickTimers op ⟨.ok flow, c'⟩)
      (valid : CodeAddress.Valid pc.toNat) :
      Stepped c ⟨.ok op,
        { c' with store := c'.store.withPc pc, cycles := c'.cycles + 1, last := some i }⟩

theorem runDecoded_stepped (fetched : c.store.instruction = .ok i)
    (decoded : i.decode? = some op) : Stepped c (c.runDecoded i op) := by
  rw [runDecoded_eq]
  cases placed : checkFallThrough c.store.registers.pc op with
  | error f =>
      obtain ⟨falls, outside, rfl⟩ := checkFallThrough_fault placed
      exact .unplaced fetched decoded falls outside
  | ok u =>
      have ready : Ready c i op := ⟨fetched, decoded, placed⟩
      rw [Attempt.andThen]
      cases moved : (c.tickTimers.executeAndMove op).result with
      | error e =>
          exact .failed ready (executed_of_failed_move (c := c.tickTimers) ready.inRange placed moved)
      | ok u =>
          obtain ⟨flow, c', pc, execution, valid, state⟩ := executed_of_move ready.inRange moved
          dsimp only
          rw [state]
          exact .ran ready execution valid

/-- The step of an instruction that has an opcode, with what an observer sees. -/
theorem step_eq_of_decoded (fetched : c.store.instruction = .ok i)
    (decoded : i.decode? = some op) :
    c.step = ⟨c.runDecoded i op,
      [.fetched c.store.registers.pc i, .decoded c.store.registers.pc op]⟩ := by
  rw [step]
  simp only [fetched, decoded]

theorem step_of_decoded (fetched : c.store.instruction = .ok i)
    (decoded : i.decode? = some op) : c.step.toAttempt = c.runDecoded i op := by
  rw [step_eq_of_decoded fetched decoded]

/-- The step of an instruction that changes the store and goes on to the next one. -/
theorem step_of_thenNext (ready : Ready c i op) (falls : op.branches = false) {s : Store}
    (effect : c.tickTimers.execute op = c.tickTimers.thenNext ⟨.ok (), s⟩)
    (pc : s.registers.pc = c.store.registers.pc) :
    c.step.toAttempt =
      ⟨.ok op, { c.tickTimers with
        store := s.withPc (.ofNat (c.store.registers.pc.toNat + 2))
        cycles := c.cycles + 1
        last := some i }⟩ := by
  have valid := place_of_falls ready.placed falls
  have followed : s.follow .next =
      ⟨.ok (), s.withPc (.ofNat (c.store.registers.pc.toNat + 2))⟩ := by
    rw [← pc] at valid ⊢
    exact Store.follow_next_of_valid valid
  have done : (c.tickTimers.execute op).result = .ok .next := congrArg Attempt.result effect
  have state : (c.tickTimers.execute op).state = { c.tickTimers with store := s } :=
    congrArg Attempt.state effect
  rw [step_of_decoded ready.fetched ready.decoded, runDecoded_eq, ready.placed]
  dsimp only
  rw [executeAndMove_of_ok done, state, followed]
  rfl

/-- The step of an instruction whose effect on the store cannot fail. -/
theorem step_of_effect (ready : Ready c i op) (falls : op.branches = false)
    {a : Attempt Fault Store Unit} {s : Store}
    (effect : c.tickTimers.execute op = c.tickTimers.thenNext a) (done : a = ⟨.ok (), s⟩)
    (pc : s.registers.pc = c.store.registers.pc) :
    c.step.result = .ok op ∧
      c.step.state.store = s.withPc (.ofNat (c.store.registers.pc.toNat + 2)) := by
  rw [done] at effect
  have step := step_of_thenNext ready falls effect pc
  exact ⟨congrArg Attempt.result step, congrArg (fun left => left.state.store) step⟩

/-- Every step leaves what the relation says. -/
theorem stepped (c : Cpu δ) : Stepped c c.step.toAttempt := by
  cases fetched : c.store.instruction with
  | error f =>
      rw [step]
      simp only [fetched]
      exact .unfetched fetched
  | ok i =>
      cases decoded : i.decode? with
      | none =>
          rw [step]
          simp only [fetched, decoded]
          exact .unassigned fetched decoded
      | some op =>
          rw [step_of_decoded fetched decoded]
          exact runDecoded_stepped fetched decoded

/-! ## Successful steps -/

/-- What a successful step did: after the tick it executed the opcode at PC, and then it followed
where the execution led. -/
structure Ran (c : Cpu δ) (i : Instruction) (op : Opcode) (flow : Flow) (done : Cpu δ)
    (store : Store) : Prop where
  ready : Ready c i op
  executed : c.tickTimers.execute op = ⟨.ok flow, done⟩
  followed : done.store.follow flow = ⟨.ok (), store⟩
  state : c.step.state = { done with store, cycles := done.cycles + 1, last := some i }

theorem Ran.execution {flow : Flow} {done : Cpu δ} {store : Store}
    (ran : Ran c i op flow done store) : Executed c.tickTimers op ⟨.ok flow, done⟩ := by
  rw [← ran.executed]
  exact Cpu.executed c.tickTimers ran.ready.inRange

theorem runDecoded_ran {answer : Opcode} (fetched : c.store.instruction = .ok i)
    (decoded : i.decode? = some op) (ok : (c.runDecoded i op).result = .ok answer) :
    ∃ flow done store, Ran c i answer flow done store := by
  have state := congrArg Attempt.state (step_of_decoded fetched decoded)
  rw [runDecoded_eq] at ok state
  cases placed : checkFallThrough c.store.registers.pc op with
  | error f =>
      simp only [placed] at ok
      cases ok
  | ok u =>
      simp only [placed] at ok state
      cases executed : c.tickTimers.execute op with
      | mk result done =>
          rw [executeAndMove, executed] at ok state
          cases result with
          | error e => cases ok
          | ok flow =>
              rw [Attempt.andThen_ok] at ok state
              cases followed : done.store.follow flow with
              | mk result store =>
                  rw [followed] at ok state
                  cases result with
                  | error f => cases ok
                  | ok u =>
                      obtain rfl : op = answer := Except.ok.inj ok
                      exact ⟨flow, done, store, ⟨fetched, decoded, placed⟩, executed, followed,
                        state⟩

/-- Every successful step ran the opcode that it answers. -/
theorem exists_of_step_ok (ok : c.step.result = .ok op) :
    ∃ i flow done store, Ran c i op flow done store := by
  cases fetched : c.store.instruction with
  | error f =>
      rw [step] at ok
      simp only [fetched] at ok
      cases ok
  | ok i =>
      cases decoded : i.decode? with
      | none =>
          rw [step] at ok
          simp only [fetched, decoded] at ok
          cases ok
      | some decodedOp =>
          rw [step_of_decoded fetched decoded] at ok
          exact ⟨i, runDecoded_ran fetched decoded ok⟩

/-! ## Counting -/

/-- A step that succeeds counts as one, and a step that fails does not count. -/
theorem Stepped.cycles {a : Attempt Stop (Cpu δ) Opcode} (h : Stepped c a) :
    a.state.cycles = c.cycles + if a.result.isOk then 1 else 0 := by
  cases h with
  | unfetched => rfl
  | unassigned => rfl
  | unplaced => rfl
  | failed _ execution => exact execution.keeps.cycles
  | ran _ execution _ => exact congrArg (· + 1) execution.keeps.cycles

end Chip8.Cpu
