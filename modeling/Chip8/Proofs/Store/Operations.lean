import Chip8.Proofs.Store.Effects
import Chip8.Store.Operation

/-!
# What an operation leaves

An operation of a caller fails and leaves the store as it was, or it is done and has
changed at most one thing.  `Store.Operated` lists what that can be, and `operated`
proves for every operation that there is nothing else.  It is the only place where
the arms of `Store.perform` are gone through for it.

That a failure leaves nothing behind (`state_perform_of_error`) is one of its cases.
It holds because every operation makes its checks before its write, and not because of
how operations are put together.
-/

namespace Chip8.Store

/-- The program that an operation puts in place of the old one.  Only a load that fits does. -/
def Operation.accepted? : Operation → Option (List UInt8)
  | .load bytes => if bytes.length ≤ Memory.programSpace then some bytes else none
  | _ => none

theorem Operation.fits_of_accepted? {op : Operation} {program : List UInt8}
    (accepted : op.accepted? = some program) : program.length ≤ Memory.programSpace := by
  cases op with
  | load bytes =>
      rw [accepted?] at accepted
      split at accepted
      next fits =>
        cases accepted
        exact fits
      next => cases accepted
  | _ => cases accepted

theorem checkProgram_eq_ok_iff {program : List UInt8} :
    checkProgram program = .ok () ↔ program.length ≤ Memory.programSpace := by
  rw [checkProgram]
  split <;> simp_all

/-- A program that does not fit keeps the store as it was. -/
theorem load_eq (s : Store) (program : List UInt8) :
    s.load program =
      if program.length ≤ Memory.programSpace then ⟨.ok (), { s with program }.reset⟩
      else ⟨.error (.programTooLarge program.length Memory.programSpace), s⟩ := by
  rw [load]
  split
  next fits => exact check_bind_of_ok (if_pos fits)
  next large => exact check_bind_of_error (if_neg large)

/-- What a store can become when an operation changes it, its program apart. -/
inductive Changed (s : Store) : Store → Prop where
  | byte (a : Nat) (byte : UInt8) : Changed s (s.putByte a byte)
  | pushed {a : UInt16} {stack : ReturnStack}
      (pushed : s.registers.stack.push a = ⟨.ok (), stack⟩) :
      Changed s { s with registers.stack := stack }
  | popped : Changed s { s with registers.stack := s.registers.stack.drop }
  | moved {pc : UInt16} (valid : CodeAddress.Valid pc.toNat) : Changed s (s.withPc pc)
  | value (x byte : UInt8) : Changed s (s.put x byte)
  | index (word : UInt16) : Changed s (s.setI word)
  | delay (byte : UInt8) : Changed s { s with registers.delay := byte }
  | sound (byte : UInt8) : Changed s { s with registers.sound := byte }
  | bound (bound : TimerBound) : Changed s (s.setTimerBound bound)
  | reset : Changed s s.reset

/-- What an operation can leave. -/
inductive Operated (s : Store) (op : Operation) : Attempt Stop Store Answer → Prop where
  /-- It failed and changed nothing. -/
  | failed {stop : Stop} (kept : op.accepted? = none) : Operated s op ⟨.error stop, s⟩
  /-- It only looked. -/
  | told {a : Answer} (kept : op.accepted? = none) : Operated s op ⟨.ok a, s⟩
  /-- It changed the store. -/
  | changed {a : Answer} {t : Store} (kept : op.accepted? = none) (changed : Changed s t) :
      Operated s op ⟨.ok a, t⟩
  /-- It took another program. -/
  | loaded {a : Answer} {program : List UInt8} (accepted : op.accepted? = some program) :
      Operated s op ⟨.ok a, { s with program }.reset⟩

namespace Operated

variable {s t : Store} {op : Operation}

theorem of_answering (kept : op.accepted? = none) (e : Except Stop Answer) :
    Operated s op (s.answering e).toAttempt := by
  cases e with
  | error stop => exact .failed kept
  | ok a => exact .told kept

theorem of_ite (kept : op.accepted? = none) {passes : Prop} [Decidable passes] {f : Fault}
    (change : Changed s t) :
    Operated s op
      (changing (if passes then ⟨.ok (), t⟩ else ⟨.error f, s⟩)).toAttempt := by
  split
  · exact .changed kept change
  · exact .failed kept

theorem of_jump (kept : op.accepted? = none) (target : Int) :
    Operated s op (changing (s.jump target)).toAttempt := by
  obtain ⟨pc, -, valid, done⟩ | failed := s.jump_cases target
  · rw [done]
    exact .changed kept (.moved valid)
  · rw [failed]
    exact .failed kept

end Operated

/-- Every operation leaves what the relation says. -/
theorem operated (s : Store) (op : Operation) : Operated s op (s.perform op).toAttempt := by
  cases op with
  | writeByte a byte =>
      rw [perform, writeByte_eq_ite]
      exact .of_ite rfl (.byte a byte)
  | pushReturn address =>
      rw [perform]
      obtain ⟨stack, pushed, done⟩ | ⟨f, -, failed, -⟩ := s.pushReturn_cases address
      · rw [done]
        exact .changed rfl (.pushed pushed)
      · rw [failed]
        exact .failed rfl
  | popReturn =>
      rw [perform, popReturn_eq]
      cases s.registers.stack.top? with
      | none => exact .failed rfl
      | some a => exact .changed rfl .popped
  | setPc a => exact .of_jump rfl _
  | advancePc distance => exact .of_jump rfl _
  | setV x word =>
      rw [perform, setV_eq_ite]
      exact .of_ite rfl (.value x _)
  | addV x delta =>
      rw [perform, addV_eq_ite]
      exact .of_ite rfl (.value x _)
  | setI word => exact .changed rfl (.index word)
  | setDelay byte =>
      rw [perform, setDelay_eq]
      exact .of_ite rfl (.delay byte)
  | setSound byte =>
      rw [perform, setSound_eq]
      exact .of_ite rfl (.sound byte)
  | setTimerBound bound => exact .changed rfl (.bound bound)
  | reset => exact .changed rfl .reset
  | load program =>
      rw [perform, load_eq]
      by_cases fits : program.length ≤ Memory.programSpace
      · rw [if_pos fits]
        exact .loaded (if_pos fits)
      · rw [if_neg fits]
        exact .failed (if_neg fits)
  | _ => exact .of_answering rfl _

/-- An operation that fails leaves the store as it was. -/
theorem state_perform_of_error {s : Store} {op : Operation} {stop : Stop}
    (failed : (s.perform op).result = .error stop) : (s.perform op).state = s := by
  have left := s.operated op
  generalize (s.perform op).toAttempt = a at left failed
  cases left with
  | failed => rfl
  | told => cases failed
  | changed => cases failed
  | loaded => cases failed

end Chip8.Store
