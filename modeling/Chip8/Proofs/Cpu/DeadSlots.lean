import Chip8.Proofs.Cpu.Failure
import Chip8.Proofs.Cpu.Ringing
import Chip8.Proofs.Store.DeadSlots

/-!
# Dead slots of a machine

Two machines that differ in dead stack slots alone execute every opcode alike
(`SameLive.execute`).  A call writes to the first dead slot of both, a return reads the
last live one, and no other opcode has to do with the stack.  So every step is alike, and
every batch and every other request (`SameLive.perform`), and the machines go on to differ
in dead slots alone.

`dead_slots_unobservable` says it of every list of requests, and of every list of
operations on a store.
-/

namespace Chip8.Cpu

variable {δ : Type}

/-- Two machines that differ in dead slots alone. -/
structure SameLive (c d : Cpu δ) : Prop where
  rest : d = c.withStack d.store.registers.stack
  stack : c.store.registers.stack.Alike d.store.registers.stack

section
variable {c d : Cpu δ}

theorem sameLive_withStack {stack : ReturnStack} (alike : c.store.registers.stack.Alike stack) :
    c.SameLive (c.withStack stack) := ⟨rfl, alike⟩

theorem sameLive_self (c : Cpu δ) : c.SameLive c := sameLive_withStack (.refl _)

/-- What has nothing to do with the stack is the same. -/
theorem SameLive.view {α : Type} (same : c.SameLive d) (view : Cpu δ → α)
    (indifferent : ∀ c stack, view (c.withStack stack) = view c) : view d = view c := by
  rw [same.rest]
  exact indifferent c _

theorem SameLive.exists_withStack (same : c.SameLive d) :
    ∃ stack, c.store.registers.stack.Alike stack ∧ d = c.withStack stack :=
  ⟨_, same.stack, same.rest⟩

theorem SameLive.tickTimers (same : c.SameLive d) : c.tickTimers.SameLive d.tickTimers := by
  obtain ⟨stack, alike, rfl⟩ := same.exists_withStack
  exact sameLive_withStack (c := c.tickTimers) alike

theorem SameLive.withKeypad (same : c.SameLive d) {a a' : Attempt Fault Keypad Unit}
    (moved : a' = a) : (c.withKeypad a).Paired SameLive (d.withKeypad a') := by
  obtain ⟨stack, alike, rfl⟩ := same.exists_withStack
  rw [moved]
  exact ⟨⟨rfl, rfl, alike⟩, rfl⟩

/-! ### Executing -/

/-- An effect that has nothing to do with the stack comes to the same, whatever it leaves. -/
theorem SameLive.withStore {α : Type} (same : c.SameLive d) {e : Effect Store α}
    (unstacked : Store.Unstacked e) :
    (c.withStore (e c.store)).Paired SameLive (d.withStore (e d.store)) := by
  obtain ⟨stack, alike, rfl⟩ := same.exists_withStack
  rw [show e (c.withStack stack).store = _ from unstacked stack c.store]
  rw [← unstacked.stack c.store] at alike
  exact ⟨rfl, rfl, alike⟩

theorem SameLive.thenNext (same : c.SameLive d) {e : Effect Store Unit}
    (unstacked : Store.Unstacked e) :
    (c.thenNext (e c.store)).Paired SameLive (d.thenNext (e d.store)) := by
  obtain ⟨result, state⟩ := same.withStore unstacked
  refine ⟨?_, state⟩
  obtain ⟨stack, -, rfl⟩ := same.exists_withStack
  rw [show e (c.withStack stack).store = _ from unstacked stack c.store]
  rfl

theorem SameLive.going (same : c.SameLive d) (flow : Except Fault Flow) :
    (c.going flow).Paired SameLive (d.going flow) := ⟨rfl, same⟩

theorem SameLive.ret (same : c.SameLive d) :
    (c.withStore c.store.returnFromCall).Paired SameLive
      (d.withStore d.store.returnFromCall) := by
  rw [Store.returnFromCall_eq, Store.returnFromCall_eq, same.stack.top?]
  obtain ⟨stack, alike, rfl⟩ := same.exists_withStack
  cases c.store.registers.stack.top? with
  | none => exact ⟨rfl, same⟩
  | some a =>
      dsimp only
      cases CodeAddress.check (a.toNat + 2) with
      | error f => exact ⟨rfl, same⟩
      | ok target => exact ⟨rfl, rfl, alike.drop⟩

theorem SameLive.call (same : c.SameLive d) (target : UInt16) :
    (c.withStore (c.store.callTo target)).Paired SameLive
      (d.withStore (d.store.callTo target)) := by
  obtain ⟨stack, alike, rfl⟩ := same.exists_withStack
  rw [Store.callTo_eq, Store.callTo_eq]
  cases CodeAddress.check target.toNat with
  | error f => exact ⟨rfl, same⟩
  | ok t =>
      dsimp only
      rcases same.stack.push c.store.registers.pc with
        ⟨f, refused, refused'⟩ | ⟨pushed, pushed', made, made', alike⟩
      · have done : c.store.pushReturn none = _ := Store.pushReturn_of_push refused
        have done' : (c.withStack stack).store.pushReturn none = _ :=
          Store.pushReturn_of_push refused'
        rw [done, done']
        exact ⟨rfl, same⟩
      · have done : c.store.pushReturn none = _ := Store.pushReturn_of_push made
        have done' : (c.withStack stack).store.pushReturn none = _ :=
          Store.pushReturn_of_push made'
        rw [done, done']
        exact ⟨rfl, rfl, alike⟩

variable [Display δ]

theorem SameLive.draw (same : c.SameLive d) (x y rows : UInt8) :
    (c.draw x y rows).Paired SameLive (d.draw x y rows) := by
  obtain ⟨stack, alike, rfl⟩ := same.exists_withStack
  have dots : (c.withStack stack).spriteDots x y rows = c.spriteDots x y rows := rfl
  rw [Cpu.draw, Cpu.draw, dots]
  cases c.spriteDots x y rows with
  | error e => exact ⟨rfl, same⟩
  | ok dots =>
      dsimp only [withStack]
      generalize Display.blit c.dialect.collision c.display false dots = drawn
      obtain ⟨result, display⟩ := drawn
      have same : SameLive { c with display } ({ c with display }.withStack stack) :=
        sameLive_withStack alike
      cases result with
      | error f => exact ⟨rfl, same⟩
      | ok hit => exact same.thenNext (.of_aside fun aside => aside.setV _ _)

/-- No opcode reads a dead slot before it writes to it. -/
theorem SameLive.execute (same : c.SameLive d) (op : Opcode) :
    (c.execute op).Paired SameLive (d.execute op) := by
  obtain ⟨stack, alike, rfl⟩ := same.exists_withStack
  cases op with
  | ret => exact same.ret
  | jump target => exact same.going _
  | call target => exact same.call target
  | skipIfByte x byte => exact same.going _
  | skipUnlessByte x byte => exact same.going _
  | skipIfSame x y => exact same.going _
  | skipIfKeyUp x => exact same.going _
  | loadByte x byte => exact same.thenNext (.of_aside fun aside => aside.setV x _)
  | addByte x byte => exact same.thenNext (.of_aside fun aside => aside.addV x _)
  | move x y => exact same.thenNext (.of_aside fun aside => aside.move x y)
  | conjoin x y => exact same.thenNext (.of_aside fun aside => aside.conjoin x y)
  | add x y => exact same.thenNext (.of_aside fun aside => aside.addRegisters x y)
  | subtract x y => exact same.thenNext (.of_aside fun aside => aside.subtract x y)
  | shiftRight x y => exact same.thenNext (.of_aside fun aside => aside.shiftRight _)
  | shiftLeft x y => exact same.thenNext (.of_aside fun aside => aside.shiftLeft _)
  | loadIndex address => exact same.thenNext (e := .change (·.setI address)) (.of_aside fun aside => aside.changeI _)
  | addIndex x => exact same.thenNext (.of_aside fun aside => aside.addIndex x)
  | loadGlyph x => exact same.thenNext (.of_aside fun aside => aside.loadGlyph x)
  | random x mask =>
      have same : SameLive { c with random := c.random.next.2 }
          ({ c with random := c.random.next.2 }.withStack stack) := sameLive_withStack alike
      exact same.thenNext (.of_aside fun aside => aside.setV x _)
  | draw x y rows => exact same.draw x y rows
  | readDelay x => exact same.thenNext (.of_aside fun aside => aside.readDelay x)
  | setDelay x => exact same.thenNext (Store.unstacked_startDelay x)
  | setSound x => exact same.thenNext (Store.unstacked_startSound x)
  | storeDigits x => exact same.thenNext (.of_aside fun aside => aside.storeDigits x _)
  | saveRegisters x => exact same.thenNext (.of_aside fun aside => aside.saveRegisters x)
  | loadRegisters x => exact same.thenNext (.of_aside fun aside => aside.loadRegisters x)

theorem SameLive.executeAndMove (same : c.SameLive d) (op : Opcode) :
    (c.executeAndMove op).Paired SameLive (d.executeAndMove op) := by
  obtain ⟨result, state⟩ := same.execute op
  rw [Cpu.executeAndMove, Cpu.executeAndMove]
  generalize c.execute op = executed at result state
  generalize d.execute op = executed' at result state
  obtain ⟨r, done⟩ := executed
  obtain ⟨r', done'⟩ := executed'
  obtain rfl : r' = r := result
  cases r' with
  | error e => exact ⟨rfl, state⟩
  | ok flow => exact state.withStore (.of_aside fun aside => aside.follow flow)

/-! ### Requests -/

theorem SameLive.runDecoded (same : c.SameLive d) (i : Instruction) (op : Opcode) :
    (c.runDecoded i op).Paired SameLive (d.runDecoded i op) := by
  obtain ⟨result, state⟩ := same.tickTimers.executeAndMove op
  have pc := same.view (·.store.registers.pc) fun _ _ => rfl
  rw [runDecoded_eq, runDecoded_eq, pc]
  cases checkFallThrough c.store.registers.pc op with
  | error f => exact ⟨rfl, same⟩
  | ok u =>
      dsimp only [Attempt.andThen]
      rw [result]
      cases (c.tickTimers.executeAndMove op).result with
      | error e => exact ⟨rfl, state⟩
      | ok u =>
          obtain ⟨stack, alike, left⟩ := state.exists_withStack
          rw [left]
          exact ⟨rfl, rfl, alike⟩

theorem SameLive.step (same : c.SameLive d) : c.step.Paired SameLive d.step := by
  have pc := same.view (·.store.registers.pc) fun _ _ => rfl
  have instruction := same.view (·.store.instruction) fun _ _ => rfl
  have last := same.view Cpu.last fun _ _ => rfl
  rw [Cpu.step, Cpu.step, instruction, pc, last]
  cases c.store.instruction with
  | error f => exact ⟨⟨rfl, same⟩, rfl⟩
  | ok i =>
      dsimp only
      cases i.decode? with
      | none => exact ⟨⟨rfl, same⟩, rfl⟩
      | some op => exact ⟨same.runDecoded i op, rfl⟩

theorem SameLive.steps (same : c.SameLive d) (n : Nat) :
    (c.steps n).Paired SameLive (d.steps n) := by
  induction n generalizing c d with
  | zero => exact ⟨⟨rfl, same⟩, rfl⟩
  | succ n ih =>
      obtain ⟨⟨result, state⟩, events⟩ := same.step
      cases stepped : c.step.result with
      | error e =>
          rw [steps_succ_of_error stepped, steps_succ_of_error (result.trans stepped), events]
          exact ⟨⟨rfl, state⟩, rfl⟩
      | ok op =>
          obtain ⟨⟨result', state'⟩, events'⟩ := ih state
          rw [steps_succ_of_ok stepped, steps_succ_of_ok (result.trans stepped), events, events']
          exact ⟨⟨result', state'⟩, rfl⟩

theorem SameLive.runBatch (same : c.SameLive d) (n : Nat) :
    (c.runBatch n).Paired SameLive (d.runBatch n) := by
  obtain ⟨⟨result, state⟩, events⟩ := same.steps n
  have before := same.view Cpu.cycles fun _ _ => rfl
  have after := state.view Cpu.cycles fun _ _ => rfl
  refine ⟨⟨?_, state⟩, events⟩
  rw [Cpu.runBatch, Cpu.runBatch]
  dsimp only
  rw [result, after, before]

theorem SameLive.reset (same : c.SameLive d) : c.reset.Paired SameLive d.reset := by
  -- Both get the initial registers, dead slots and all.
  obtain ⟨stack, alike, rfl⟩ := same.exists_withStack
  exact ⟨⟨rfl, sameLive_self _⟩, rfl⟩

/-- Every request is answered alike, and leaves machines that differ in dead slots alone. -/
theorem SameLive.perform (same : c.SameLive d) (r : Request) :
    (c.perform r).Paired SameLive (d.perform r) := by
  obtain ⟨stack, alike, rfl⟩ := same.exists_withStack
  cases r with
  | step =>
      obtain ⟨⟨result, state⟩, events⟩ := same.step
      exact ⟨⟨congrArg (Except.map Reply.ran) result, state⟩, events⟩
  | batch count =>
      obtain ⟨⟨result, state⟩, events⟩ := same.runBatch count
      exact ⟨⟨congrArg (Except.map Reply.count) result, state⟩, events⟩
  | press key => exact same.withKeypad rfl
  | release key => exact same.withKeypad rfl
  | releaseAll => exact same.withKeypad rfl
  | setDialect dialect => exact ⟨⟨rfl, rfl, alike⟩, rfl⟩
  | setPixel offset value => exact ⟨⟨rfl, rfl, alike⟩, rfl⟩
  | reset =>
      obtain ⟨⟨result, state⟩, events⟩ := same.reset
      exact ⟨⟨congrArg (Except.map fun _ => Reply.done) result, state⟩, events⟩

theorem SameLive.performAll (same : c.SameLive d) (requests : List Request) :
    d.transcript requests = c.transcript requests ∧
      (c.performAll requests).SameLive (d.performAll requests) := by
  induction requests generalizing c d with
  | nil => exact ⟨rfl, same⟩
  | cons r requests ih =>
      obtain ⟨⟨result, state⟩, events⟩ := same.perform r
      obtain ⟨told, left⟩ := ih state
      rw [transcript, transcript, result, events, told]
      exact ⟨rfl, left⟩

end

/-- What a dead slot holds makes no difference.  Whatever is asked of two machines that differ in
dead slots alone, the answers, the faults and the events are the same, and so are the bells, the
planes and all else that they are left with, dead slots apart.  The same holds of two stores, as
long as nobody asks for the raw registers. -/
theorem dead_slots_unobservable [Display δ] :
    (∀ c d : Cpu δ, c.SameLive d → ∀ requests,
      d.transcript requests = c.transcript requests ∧
        (d.performAll requests).bell = (c.performAll requests).bell ∧
        (d.performAll requests).display = (c.performAll requests).display ∧
        (c.performAll requests).SameLive (d.performAll requests)) ∧
      ∀ s t : Store, s.SameLive t → ∀ ops, Store.Operation.registers ∉ ops →
        t.transcript ops = s.transcript ops ∧ (s.performAll ops).SameLive (t.performAll ops) := by
  refine ⟨fun c d same requests => ?_, fun s t same ops apart => same.performAll apart⟩
  obtain ⟨told, left⟩ := same.performAll requests
  exact ⟨told, left.view Cpu.bell fun _ _ => rfl, left.view Cpu.display fun _ _ => rfl, left⟩

/-- An address that was pushed and taken again is not returned to. -/
theorem popped_address_unobservable :
    let popped := returnStore.performAll [.pushReturn (some 0x300), .popReturn]
    let c := Cpu.new returnStore (FrameBuffer.blank 64 32) 0
    let d := Cpu.new popped (FrameBuffer.blank 64 32) 0
    popped.registers.stack.slots[0] = 0x300 ∧ returnStore.registers.stack.slots[0] = 0 ∧
      d.transcript [.step, .batch 2] = c.transcript [.step, .batch 2] ∧
      popped.transcript [.popReturn, .peekReturn] =
        returnStore.transcript [.popReturn, .peekReturn] := by
  intro popped c d
  have stack : returnStore.registers.stack.Alike popped.registers.stack :=
    ⟨rfl, fun k below => absurd below (Nat.not_lt_zero k)⟩
  have machines : c.SameLive d := ⟨rfl, stack⟩
  have stores : returnStore.SameLive popped := ⟨rfl, stack⟩
  obtain ⟨run, operate⟩ := dead_slots_unobservable (δ := FrameBuffer)
  exact ⟨rfl, rfl, (run c d machines _).1, (operate _ _ stores _ (by decide)).1⟩

end Chip8.Cpu
