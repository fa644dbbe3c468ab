import Chip8.Proofs.Span
import Chip8.Store.Effect

/-!
# Effects without their checks

The effects of `Chip8.Store.Effect` check what they use as they go, and go on from
whatever store a write left.  A decoded instruction names registers that exist, and
then most of these checks cannot fail.  This module says what comes of each effect
from start to end: a store written with total reads and writes (`value`, `put`,
`putByte`), and for the few effects that can still fail the exact condition, the
fault, and the store that is left.  It is the store from before in every case, since
each effect makes its checks before its first write.

The effects that go through memory byte by byte are loops of checked accesses.  Once
the check of their span has passed no access fails, and the loop comes to one write
of a whole region (`copyOut_range'`, `copyIn_range'`, `digitPasses_eq`).

The equations are what later proofs unfold, so that none of them opens a checked
effect again.
-/

namespace Chip8

namespace Store

/-! ## Going on after a check -/

theorem ok_bind {α β : Type} (a : α) (f : α → Except Fault β) : (Except.ok a >>= f) = f a := rfl

section
variable {σ α β : Type} {s : σ} {next : α → Effect σ β}

/-- After a look that found something the sequence goes on from the same state. -/
theorem query_bind_of_ok {query : Query σ α} {a : α} (found : query s = .ok a) :
    ((liftM query : Effect σ α) >>= next) s = next a s :=
  Effect.bind_of_ok (congrArg (Attempt.mk · s) found)

/-- A look that failed ends the sequence in the same state. -/
theorem query_bind_of_error {query : Query σ α} {f : Fault} (failed : query s = .error f) :
    ((liftM query : Effect σ α) >>= next) s = ⟨.error f, s⟩ :=
  Effect.bind_of_error (congrArg (Attempt.mk · s) failed)

/-- After a check that passed the sequence goes on from the same state. -/
theorem check_bind_of_ok {e : Except Fault α} {a : α} (passed : e = .ok a) :
    ((liftM e : Effect σ α) >>= next) s = next a s := by
  rw [passed]
  rfl

/-- A check that failed ends the sequence in the same state. -/
theorem check_bind_of_error {e : Except Fault α} {f : Fault} (failed : e = .error f) :
    ((liftM e : Effect σ α) >>= next) s = ⟨.error f, s⟩ := by
  rw [failed]
  rfl

end

/-! ## Total reads and writes -/

/-- The value of a V register, zero where there is none. -/
def value (s : Store) (x : UInt8) : UInt8 := s.registers.v[x.toNat]?.getD 0

/-- The store with a byte in a V register, if there is one. -/
def put (s : Store) (x byte : UInt8) : Store :=
  { s with registers.v := s.registers.v.setIfInBounds x.toNat byte }

/-- The store with a byte at an address, if there is one. -/
def putByte (s : Store) (address : Nat) (byte : UInt8) : Store :=
  { s with memory.cells := s.memory.cells.setIfInBounds address byte }

theorem set_eq_setIfInBounds {α : Type} {n k : Nat} (cells : Vector α n) (a : α) (hk : k < n) :
    cells.set k a hk = cells.setIfInBounds k a := by
  ext j hj
  rw [Vector.getElem_set, Vector.getElem_setIfInBounds]

theorem flag_lt : Registers.flag.toNat < 16 := by decide

theorem getV_eq (s : Store) {x : UInt8} (hx : x.toNat < 16) : s.getV x = .ok (s.value x) := by
  rw [getV, Registers.getV_of_lt s.registers hx, value]
  simp [hx]

/-- A V register that is not there keeps the store as it was. -/
theorem setV_eq_ite (s : Store) (x : UInt8) (word : UInt16) :
    s.setV x word =
      if x.toNat < 16 then ⟨.ok (), s.put x word.toUInt8⟩ else ⟨.error (.noSuchRegister x), s⟩ := by
  rw [setV, onRegisters]
  by_cases hx : x.toNat < 16
  · rw [if_pos hx, Registers.setV_of_lt s.registers word hx, put, ← set_eq_setIfInBounds _ _ hx]
    rfl
  · rw [if_neg hx, Registers.setV, dif_neg hx]
    rfl

theorem setV_eq (s : Store) {x : UInt8} (word : UInt16) (hx : x.toNat < 16) :
    s.setV x word = ⟨.ok (), s.put x word.toUInt8⟩ := by
  rw [setV_eq_ite, if_pos hx]

/-- An address that is not there keeps the store as it was. -/
theorem writeByte_eq_ite (s : Store) (a : Nat) (byte : UInt8) :
    s.writeByte a byte =
      if a < 4096 then ⟨.ok (), s.putByte a byte⟩ else ⟨.error (.addressOutOfRange a), s⟩ := by
  rw [writeByte, onMemory]
  by_cases inside : a < 4096
  · rw [if_pos inside, Memory.write_of_lt s.memory byte inside, putByte,
      ← set_eq_setIfInBounds _ _ inside]
    rfl
  · rw [if_neg inside, Memory.write_of_le _ _ (Nat.le_of_not_lt inside)]
    rfl

theorem writeByte_eq (s : Store) {a : Nat} (byte : UInt8) (ha : a < 4096) :
    s.writeByte a byte = ⟨.ok (), s.putByte a byte⟩ := by
  rw [writeByte_eq_ite, if_pos ha]

theorem value_put (s : Store) {x : UInt8} (byte : UInt8) (hx : x.toNat < 16) (k : UInt8) :
    (s.put x byte).value k = if k = x then byte else s.value k := by
  by_cases hk : k = x
  · subst hk
    simp [value, put, hx]
  · have hne : x.toNat ≠ k.toNat := fun e => hk (UInt8.toNat_inj.mp e.symm)
    simp [value, put, hk, Vector.getElem?_setIfInBounds_ne hne]

theorem index_lt (s : Store) : s.registers.i.toNat < UInt16.size := s.registers.i.toNat_lt

/-! ## Arithmetic -/

section
variable {s : Store} {x y : UInt8}

theorem addV_eq_ite (s : Store) (x : UInt8) (delta : UInt16) :
    s.addV x delta =
      if x.toNat < 16 then ⟨.ok (), s.put x (s.value x + delta.toUInt8)⟩
      else ⟨.error (.noSuchRegister x), s⟩ := by
  rw [addV]
  by_cases hx : x.toNat < 16
  · rw [if_pos hx, query_bind_of_ok (getV_eq s hx), setV_eq s _ hx, UInt16.toUInt8_add,
      UInt8.toUInt8_toUInt16]
  · rw [if_neg hx]
    exact query_bind_of_error (dif_neg hx)

theorem addV_eq (hx : x.toNat < 16) (delta : UInt16) :
    s.addV x delta = ⟨.ok (), s.put x (s.value x + delta.toUInt8)⟩ := by
  rw [addV_eq_ite, if_pos hx]

theorem move_eq (hx : x.toNat < 16) (hy : y.toNat < 16) :
    s.move x y = ⟨.ok (), s.put x (s.value y)⟩ := by
  rw [move, query_bind_of_ok (getV_eq s hy), setV_eq s _ hx, UInt8.toUInt8_toUInt16]

theorem conjoin_eq (hx : x.toNat < 16) (hy : y.toNat < 16) :
    s.conjoin x y = ⟨.ok (), s.put x (s.value x &&& s.value y)⟩ := by
  rw [conjoin, query_bind_of_ok (getV_eq s hx), query_bind_of_ok (getV_eq s hy), setV_eq s _ hx,
    UInt8.toUInt8_toUInt16]

/-- A truth value as a byte of the flag register. -/
def flagByte (b : Bool) : UInt8 := if b then 1 else 0

@[simp] theorem toUInt8_flagValue (b : Bool) : (flagValue b).toUInt8 = flagByte b := by
  cases b <;> rfl

theorem carry_eq (a b : UInt8) :
    decide (a.toUInt16 + b.toUInt16 > 0xFF) = decide (255 < a.toNat + b.toNat) := by
  have ha := a.toNat_lt
  have hb := b.toNat_lt
  simp only [gt_iff_lt, UInt16.lt_iff_toNat_lt, UInt16.toNat_add, UInt8.toNat_toUInt16,
    UInt16.reduceToNat, decide_eq_decide]
  omega

theorem addRegisters_eq (hx : x.toNat < 16) (hy : y.toNat < 16) :
    s.addRegisters x y =
      ⟨.ok (), (s.put x (s.value x + s.value y)).put Registers.flag
        (flagByte (255 < (s.value x).toNat + (s.value y).toNat))⟩ := by
  rw [addRegisters, query_bind_of_ok (getV_eq s hx), query_bind_of_ok (getV_eq s hy),
    Effect.bind_of_ok (setV_eq s _ hx), setV_eq _ _ flag_lt, carry_eq, toUInt8_flagValue,
    UInt16.toUInt8_add, UInt8.toUInt8_toUInt16, UInt8.toUInt8_toUInt16]

theorem subtract_eq (hx : x.toNat < 16) (hy : y.toNat < 16) :
    s.subtract x y =
      ⟨.ok (), (s.put Registers.flag (flagByte (s.value x > s.value y))).put x
        (s.value x - s.value y)⟩ := by
  rw [subtract, query_bind_of_ok (getV_eq s hx), query_bind_of_ok (getV_eq s hy),
    Effect.bind_of_ok (setV_eq s _ flag_lt), toUInt8_flagValue, setV_eq _ _ hx,
    UInt8.toUInt8_toUInt16]

theorem shiftRight_eq (hx : x.toNat < 16) :
    s.shiftRight x = ⟨.ok (), (s.put Registers.flag (s.value x % 2)).put x (s.value x / 2)⟩ := by
  rw [shiftRight, query_bind_of_ok (getV_eq s hx), Effect.bind_of_ok (setV_eq s _ flag_lt),
    setV_eq _ _ hx, UInt8.toUInt8_toUInt16, UInt8.toUInt8_toUInt16]

theorem shiftLeft_eq (hx : x.toNat < 16) :
    s.shiftLeft x = ⟨.ok (), (s.put Registers.flag (s.value x / 128)).put x (s.value x * 2)⟩ := by
  have htwo : (2 : UInt16).toUInt8 = 2 := rfl
  rw [shiftLeft, query_bind_of_ok (getV_eq s hx), Effect.bind_of_ok (setV_eq s _ flag_lt),
    setV_eq _ _ hx, UInt16.toUInt8_mul, UInt8.toUInt8_toUInt16, UInt8.toUInt8_toUInt16, htwo]

theorem addIndex_eq (hx : x.toNat < 16) :
    s.addIndex x = ⟨.ok (), s.setI (s.registers.i + (s.value x).toUInt16)⟩ := by
  rw [addIndex, query_bind_of_ok (getV_eq s hx)]
  rfl

theorem loadGlyph_eq (hx : x.toNat < 16) :
    s.loadGlyph x =
      ⟨.ok (), s.setI (Memory.fontBase + (s.value x).toUInt16 * Memory.glyphSize)⟩ := by
  rw [loadGlyph, query_bind_of_ok (getV_eq s hx)]
  rfl

end

/-! ## Timers -/

/-- A bound refuses no value but 255. -/
theorem accepts_of_ne (bound : TimerBound) {byte : UInt8} (low : byte ≠ 255) :
    bound.accepts byte = true := by
  have := byte.toNat_lt
  have distinct : byte.toNat ≠ 255 := fun top => low (UInt8.toNat_inj.mp top)
  have below : byte < 255 := UInt8.lt_iff_toNat_lt.mpr (show byte.toNat < 255 by omega)
  cases bound with
  | below255 => exact decide_eq_true below
  | full => rfl

theorem setDelay_eq (s : Store) (byte : UInt8) :
    s.setDelay byte =
      if s.timerBound.accepts byte then ⟨.ok (), { s with registers.delay := byte }⟩
      else ⟨.error (.timerOutOfRange byte), s⟩ := by
  rw [setDelay]
  split
  next accepted => exact query_bind_of_ok (if_pos accepted)
  next refused => exact query_bind_of_error (if_neg refused)

theorem setSound_eq (s : Store) (byte : UInt8) :
    s.setSound byte =
      if s.timerBound.accepts byte then ⟨.ok (), { s with registers.sound := byte }⟩
      else ⟨.error (.timerOutOfRange byte), s⟩ := by
  rw [setSound]
  split
  next accepted => exact query_bind_of_ok (if_pos accepted)
  next refused => exact query_bind_of_error (if_neg refused)

section
variable {s : Store} {x : UInt8}

theorem readDelay_eq (hx : x.toNat < 16) :
    s.readDelay x = ⟨.ok (), s.put x s.registers.delay⟩ := by
  have found : s.getDelay = .ok s.registers.delay := rfl
  rw [readDelay, query_bind_of_ok found, setV_eq s _ hx, UInt8.toUInt8_toUInt16]

theorem startDelay_eq (hx : x.toNat < 16) : s.startDelay x = s.setDelay (s.value x) :=
  query_bind_of_ok (getV_eq s hx)

theorem startSound_eq (hx : x.toNat < 16) : s.startSound x = s.setSound (s.value x) :=
  query_bind_of_ok (getV_eq s hx)

end

/-- A timer one tick later. -/
def countDown (timer : UInt8) : UInt8 := if timer = 0 then 0 else timer - 1

/-- The store with both timers one tick later. -/
def tickTimers (s : Store) : Store :=
  { s with
    registers.delay := countDown s.registers.delay
    registers.sound := countDown s.registers.sound }

theorem toNat_countDown (timer : UInt8) : (countDown timer).toNat = timer.toNat - 1 := by
  unfold countDown
  split
  next zero =>
    rw [zero]
    rfl
  next running =>
    have hpos : timer.toNat ≠ 0 := fun h => running (UInt8.toNat_inj.mp h)
    have hle : (1 : UInt8) ≤ timer := UInt8.le_iff_toNat_le.mpr (Nat.one_le_iff_ne_zero.mpr hpos)
    rw [UInt8.toNat_sub_of_le _ _ hle]
    rfl

/-- No bound is in the way of a timer that counts down, since it only ever gets smaller. -/
theorem accepts_countDown (bound : TimerBound) (timer : UInt8) :
    bound.accepts (countDown timer) = true := by
  apply accepts_of_ne
  intro top
  have below := toNat_countDown timer
  have := timer.toNat_lt
  rw [top] at below
  change 255 = timer.toNat - 1 at below
  omega

/-! ## Moving PC -/

/-- The store with PC at an address, whatever the address. -/
def withPc (s : Store) (pc : UInt16) : Store := { s with registers.pc := pc }

/-- A target that is none keeps PC where it was. -/
theorem jump_eq (s : Store) (target : Int) :
    s.jump target =
      match CodeAddress.check target with
      | .ok pc => ⟨.ok (), s.withPc pc⟩
      | .error f => ⟨.error f, s⟩ := by
  rw [jump, onRegisters, Registers.jump]
  cases checked : CodeAddress.check target with
  | error f =>
      rw [check_bind_of_error rfl]
      rfl
  | ok pc =>
      rw [check_bind_of_ok rfl]
      rfl

theorem jump_cases (s : Store) (target : Int) :
    (∃ pc : UInt16, target = pc.toNat ∧ CodeAddress.Valid pc.toNat ∧
        s.jump target = ⟨.ok (), s.withPc pc⟩) ∨
      s.jump target = ⟨.error (.badTarget target), s⟩ := by
  rw [jump_eq]
  cases checked : CodeAddress.check target with
  | error f =>
      obtain rfl := CodeAddress.check_fault checked
      exact .inr rfl
  | ok pc =>
      obtain ⟨same, valid⟩ := CodeAddress.check_eq_ok_iff.mp checked
      exact .inl ⟨pc, same, valid, rfl⟩

theorem jump_ok {s t : Store} {target : Int} (jumped : s.jump target = ⟨.ok (), t⟩) :
    ∃ pc : UInt16, target = pc.toNat ∧ CodeAddress.Valid pc.toNat ∧ t = s.withPc pc := by
  obtain ⟨pc, same, valid, done⟩ | failed := s.jump_cases target
  · rw [done] at jumped
    exact ⟨pc, same, valid, (congrArg Attempt.state jumped).symm⟩
  · rw [failed] at jumped
    cases jumped

theorem jump_of_valid (s : Store) {pc : UInt16} (valid : CodeAddress.Valid pc.toNat) :
    s.jump pc.toNat = ⟨.ok (), s.withPc pc⟩ := by
  rw [jump_eq, CodeAddress.check_of_valid valid]

/-- Where a flow goes. -/
def place (s : Store) : Flow → Int
  | .next => s.registers.pc.toNat + 2
  | .skip => s.registers.pc.toNat + 4
  | .jump target => target.toNat

/-- Following a flow is a jump. -/
theorem follow_eq (s : Store) (flow : Flow) : s.follow flow = s.jump (s.place flow) := by
  cases flow <;> rfl

theorem follow_ok {s t : Store} {flow : Flow} (followed : s.follow flow = ⟨.ok (), t⟩) :
    ∃ pc : UInt16, CodeAddress.Valid pc.toNat ∧ t = s.withPc pc := by
  rw [follow_eq] at followed
  obtain ⟨pc, -, valid, moved⟩ := jump_ok followed
  exact ⟨pc, valid, moved⟩

/-- A flow that leads nowhere keeps PC where it was. -/
theorem follow_cases (s : Store) (flow : Flow) :
    (∃ pc : UInt16, CodeAddress.Valid pc.toNat ∧ s.follow flow = ⟨.ok (), s.withPc pc⟩) ∨
      s.follow flow = ⟨.error (.badTarget (s.place flow)), s⟩ := by
  rw [follow_eq]
  obtain ⟨pc, -, valid, done⟩ | failed := s.jump_cases (s.place flow)
  · exact .inl ⟨pc, valid, done⟩
  · exact .inr failed

theorem follow_next_of_valid {s : Store}
    (valid : CodeAddress.Valid (s.registers.pc.toNat + 2)) :
    s.follow .next = ⟨.ok (), s.withPc (.ofNat (s.registers.pc.toNat + 2))⟩ := by
  change s.jump (s.registers.pc.toNat + 2 : Nat) = _
  rw [jump_eq, CodeAddress.check_natCast, if_pos valid]

/-! ## Calls -/

/-- A return fails on an empty stack, and when the address after the call is none.  Either way the
address stays on the stack. -/
theorem returnFromCall_eq (s : Store) :
    s.returnFromCall =
      match s.registers.stack.top? with
      | none => ⟨.error .stackUnderflow, s⟩
      | some a =>
          match CodeAddress.check (a.toNat + 2) with
          | .error f => ⟨.error f, s⟩
          | .ok target =>
              ⟨.ok (.jump target), { s with registers.stack := s.registers.stack.drop }⟩ := by
  rw [returnFromCall]
  cases top : s.registers.stack.top? with
  | none =>
      have nothing : s.peekReturn = .error .stackUnderflow := by rw [peekReturn, top]
      exact query_bind_of_error nothing
  | some a =>
      have caller : s.peekReturn = .ok a := by rw [peekReturn, top]
      rw [query_bind_of_ok caller]
      dsimp only
      cases checked : CodeAddress.check (a.toNat + 2) with
      | error f => exact check_bind_of_error rfl
      | ok target =>
          have popped : s.popReturn =
              ⟨.ok a, { s with registers.stack := s.registers.stack.drop }⟩ := by
            rw [popReturn, onStack, ReturnStack.pop, top]
            rfl
          rw [check_bind_of_ok rfl, Effect.bind_of_ok popped]
          rfl

/-- A call to a target that is none pushes nothing. -/
theorem callTo_eq (s : Store) (target : UInt16) :
    s.callTo target =
      match CodeAddress.check target.toNat with
      | .error f => ⟨.error f, s⟩
      | .ok t => (s.pushReturn none).map fun () => .jump t := by
  rw [callTo]
  cases checked : CodeAddress.check target.toNat with
  | error f => exact check_bind_of_error rfl
  | ok t =>
      rw [check_bind_of_ok rfl]
      cases pushed : s.pushReturn none with
      | mk result left =>
          cases result with
          | error f => exact Effect.bind_of_error pushed
          | ok u => exact Effect.bind_of_ok pushed

theorem pushReturn_of_push {s : Store} {address : Option UInt16} {result : Except Fault Unit}
    {stack : ReturnStack}
    (pushed : s.registers.stack.push (address.getD s.registers.pc) = ⟨result, stack⟩) :
    s.pushReturn address = ⟨result, { s with registers.stack := stack }⟩ := by
  rw [pushReturn, onStack, pushed]
  rfl

/-- A push that fails keeps the stack as it was. -/
theorem pushReturn_cases (s : Store) (address : Option UInt16) :
    (∃ stack, s.registers.stack.push (address.getD s.registers.pc) = ⟨.ok (), stack⟩ ∧
        s.pushReturn address = ⟨.ok (), { s with registers.stack := stack }⟩) ∨
      ∃ f, s.registers.stack.push (address.getD s.registers.pc) = ⟨.error f, s.registers.stack⟩ ∧
        s.pushReturn address = ⟨.error f, s⟩ ∧
        (f = .stackOverflow ∨ f = .badTarget (address.getD s.registers.pc).toNat) := by
  obtain ⟨stack, pushed⟩ | ⟨f, failed, cause⟩ :=
    s.registers.stack.push_cases (address.getD s.registers.pc)
  · exact .inl ⟨stack, pushed, pushReturn_of_push pushed⟩
  · exact .inr ⟨f, failed, pushReturn_of_push failed, cause⟩

/-- A pop of an empty stack keeps it as it was. -/
theorem popReturn_eq (s : Store) :
    s.popReturn =
      match s.registers.stack.top? with
      | none => ⟨.error .stackUnderflow, s⟩
      | some a => ⟨.ok a, { s with registers.stack := s.registers.stack.drop }⟩ := by
  rw [popReturn, onStack, ReturnStack.pop]
  cases s.registers.stack.top? <;> rfl

/-! ## Digits -/

section
variable {s : Store} {a : Nat} {x : UInt8}

theorem putByte_self (s : Store) (inside : a < 0x1000) : s.putByte a s.memory.cells[a] = s := by
  rw [putByte, ← set_eq_setIfInBounds _ _ inside, Vector.set_getElem_self]

theorem putByte_putByte (s : Store) (a : Nat) (b b' : UInt8) :
    (s.putByte a b).putByte a b' = s.putByte a b' := by
  simp [putByte]

theorem readByte_putByte (s : Store) (inside : a < 0x1000) (b : UInt8) :
    (s.putByte a b).readByte a = .ok b := by
  rw [readByte, Memory.read_of_lt _ inside, putByte]
  simp

/-- A pass leaves two digits in one byte. -/
theorem digitPass_eq (s : Store) (inside : a < 0x1000) (value : Nat) :
    s.digitPass a value =
      ⟨.ok (), s.putByte a (.ofNat ((value % 10 + value / 10 % 10) * 16))⟩ := by
  have small : value % 10 < UInt8.size := Nat.lt_trans (Nat.mod_lt _ (by decide)) (by decide)
  rw [digitPass, Effect.bind_of_ok (writeByte_eq s _ inside),
    query_bind_of_ok (readByte_putByte s inside _), writeByte_eq _ _ inside, putByte_putByte,
    UInt8.toNat_ofNat_of_lt' small]

/-- The byte that some passes of the literal layout leave, given the value still to store and the
byte that stands there. -/
def literalDigits : (passes value : Nat) → (cell : UInt8) → UInt8
  | 0, _, cell => cell
  | passes + 1, value, _ =>
      literalDigits passes (value / 100) (.ofNat ((value % 10 + value / 10 % 10) * 16))

theorem digitPasses_eq (s : Store) (inside : a < 0x1000) (passes value : Nat) :
    s.digitPasses a passes value =
      ⟨.ok (), s.putByte a (literalDigits passes value s.memory.cells[a])⟩ := by
  induction passes generalizing s value with
  | zero =>
      rw [literalDigits, putByte_self s inside]
      rfl
  | succ passes ih =>
      have cell (b : UInt8) : (s.putByte a b).memory.cells[a] = b := by simp [putByte]
      rw [digitPasses, Effect.bind_of_ok (digitPass_eq s inside value), ih, putByte_putByte, cell,
        literalDigits]

theorem literalDigits_three (byte cell : UInt8) : literalDigits 3 byte.toNat cell = 0 := by
  have small := byte.toNat_lt
  have gone : byte.toNat / 100 / 100 = 0 := by omega
  simp [literalDigits, gone]

/-- Three passes are enough for any byte to leave nothing but zero, and they need what a single
write needs. -/
theorem digitPasses_three (s : Store) (a : Nat) (byte : UInt8) :
    s.digitPasses a 3 byte.toNat = s.writeByte a 0 := by
  by_cases inside : a < 0x1000
  · rw [digitPasses_eq s inside, literalDigits_three, writeByte_eq s 0 inside]
  · have refused (b : UInt8) : s.writeByte a b = ⟨.error (.addressOutOfRange a), s⟩ := by
      rw [writeByte_eq_ite, if_neg inside]
    have pass : s.digitPass a byte.toNat = ⟨.error (.addressOutOfRange a), s⟩ :=
      Effect.bind_of_error (refused _)
    rw [refused]
    exact Effect.bind_of_error pass

/-- The literal layout is three passes over the byte after I. -/
theorem storeDigits_literal (s : Store) (hx : x.toNat < 16) :
    s.storeDigits .literal x = s.digitPasses (s.registers.i.toNat + 1) 3 (s.value x).toNat := by
  have hi := s.index_lt
  have index : s.getI = .ok s.registers.i := rfl
  have span := Memory.checkSpan_of_small (a := s.registers.i.toNat + 1) (n := 1) (by omega)
    (by omega) (by omega)
  rw [Nat.add_sub_cancel] at span
  rw [storeDigits, query_bind_of_ok (getV_eq s hx), query_bind_of_ok index]
  dsimp only
  rw [digitPasses_three, writeByte_eq_ite]
  split
  next inside =>
    rw [if_pos inside] at span
    rw [check_bind_of_ok span, digitPasses_three, writeByte_eq s 0 inside]
  next outside =>
    rw [if_neg outside] at span
    exact check_bind_of_error span

theorem storeDigits_literal_eq (hx : x.toNat < 16) :
    s.storeDigits .literal x =
      if s.registers.i.toNat + 1 < 4096 then ⟨.ok (), s.putByte (s.registers.i.toNat + 1) 0⟩
      else ⟨.error (.addressOutOfRange (s.registers.i.toNat + 1)), s⟩ := by
  rw [storeDigits_literal s hx, digitPasses_three, writeByte_eq_ite]

/-- The decimal digits of a byte, hundreds first. -/
def decimalDigits (value : UInt8) : List UInt8 := [value / 100, value / 10 % 10, value % 10]

/-- The canonical layout makes three writes, and none where one of them could fail. -/
theorem storeDigits_canonical_eq (hx : x.toNat < 16) :
    s.storeDigits .canonical x =
      if s.registers.i.toNat + 2 < 4096 then
        ⟨.ok (), { s with
          memory := s.memory.overlay s.registers.i.toNat (decimalDigits (s.value x)) }⟩
      else ⟨.error (.addressOutOfRange (s.registers.i.toNat + 2)), s⟩ := by
  have hi := s.index_lt
  have index : s.getI = .ok s.registers.i := rfl
  have span := Memory.checkSpan_of_small (a := s.registers.i.toNat) (n := 3) (by omega)
    (by omega) (by omega)
  rw [storeDigits, query_bind_of_ok (getV_eq s hx), query_bind_of_ok index]
  dsimp only
  split
  next inside =>
    rw [if_pos (by omega)] at span
    rw [check_bind_of_ok span, Effect.bind_of_ok (writeByte_eq s _ (by omega)),
      Effect.bind_of_ok (writeByte_eq _ _ (by omega)), writeByte_eq _ _ inside]
    rfl
  next outside =>
    rw [if_neg (by omega)] at span
    exact check_bind_of_error span

end

/-! ## Blocks of registers -/

theorem checkBlock_eq {base : Nat} {x : UInt8} (hx : x.toNat < 16) (small : base < UInt16.size) :
    checkBlock base x =
      if base + x.toNat < 4096 then .ok () else .error (.addressOutOfRange (base + x.toNat)) := by
  rw [checkBlock, if_pos hx, Memory.checkSpan_of_small (by omega) (by omega) (by omega)]
  rfl

section
variable {s : Store} {x : UInt8} {base first n : Nat}

/-- A loop whose first pass succeeds goes on with the others. -/
theorem forM_cons_of_ok {α : Type} {body : α → Effect Store Unit} {a : α} {rest : List α}
    {t : Store} (done : body a s = ⟨.ok (), t⟩) : (a :: rest).forM body s = rest.forM body t :=
  Effect.bind_of_ok done

theorem toNat_ofNat_of_lt {r : Nat} (small : r < 16) : (UInt8.ofNat r).toNat = r :=
  UInt8.toNat_ofNat_of_lt' (Nat.lt_trans small (by decide))

theorem value_ofNat (s : Store) {r : Nat} (small : r < 16) :
    s.value (.ofNat r) = s.registers.v[r] := by
  rw [value, toNat_ofNat_of_lt small, Vector.getElem?_eq_getElem small]
  rfl

/-- The registers from one on, copied out one by one, are written as a whole. -/
theorem copyOut_range' (s : Store) (there : first + n ≤ 16) (inside : base + first + n ≤ 4096) :
    (List.range' first n).forM (copyOut base) s =
      ⟨.ok (), { s with
        memory := s.memory.overlay (base + first) ((s.registers.v.toList.drop first).take n) }⟩ := by
  induction n generalizing s first with
  | zero => rfl
  | succ n ih =>
      have small : first < 16 := by omega
      have copied : copyOut base first s =
          ⟨.ok (), s.putByte (base + first) s.registers.v[first]⟩ := by
        rw [copyOut, query_bind_of_ok (getV_eq s (by rwa [toNat_ofNat_of_lt small])),
          writeByte_eq s _ (by omega), value_ofNat s small]
      have next : s.registers.v.toList.drop first =
          s.registers.v[first] :: s.registers.v.toList.drop (first + 1) := by
        rw [List.drop_eq_getElem_cons (by simpa using small), Vector.getElem_toList]
      rw [List.range'_succ, forM_cons_of_ok copied, ih _ (by omega) (by omega), next,
        List.take_succ_cons]
      rfl

theorem get_put_ofNat (s : Store) (small : first < 16) (byte : UInt8) (r : Fin 16) :
    (s.put (.ofNat first) byte).registers.v.get r =
      if r.val = first then byte else s.registers.v.get r := by
  change (s.registers.v.setIfInBounds _ byte)[r.val] = _
  rw [Vector.getElem_setIfInBounds, toNat_ofNat_of_lt small]
  simp only [eq_comm (a := first)]
  rfl

/-- The registers from one on, read from memory from as far above an address as their number. -/
def readFrom (s : Store) (base first n : Nat) : Vector UInt8 16 :=
  Vector.ofFn fun r =>
    if first ≤ r.val ∧ r.val < first + n then
      s.memory.cells[base + r.val]?.getD (s.registers.v.get r)
    else s.registers.v.get r

theorem readFrom_zero (s : Store) (base first : Nat) :
    s.readFrom base first 0 = s.registers.v := by
  ext r hr
  rw [readFrom, Vector.getElem_ofFn, if_neg (by omega)]
  rfl

/-- The first register may be read on its own, before the others. -/
theorem readFrom_succ (s : Store) (small : first < 16) (below : base + first < 4096) :
    s.readFrom base first (n + 1) =
      (s.put (.ofNat first) s.memory.cells[base + first]).readFrom base (first + 1) n := by
  have kept : (s.put (.ofNat first) s.memory.cells[base + first]).memory = s.memory := rfl
  refine congrArg Vector.ofFn (funext fun r => ?_)
  rw [get_put_ofNat s small, kept]
  by_cases here : r.val = first
  · rw [here, if_pos (by omega), if_neg (by omega), if_pos rfl, Vector.getElem?_eq_getElem below]
    rfl
  · have range : first ≤ r.val ∧ r.val < first + (n + 1) ↔
        first + 1 ≤ r.val ∧ r.val < first + 1 + n := by
      omega
    rw [if_neg here]
    simp only [range]

/-- The registers from one on, copied in one by one, are read as a whole. -/
theorem copyIn_range' (s : Store) (there : first + n ≤ 16) (inside : base + first + n ≤ 4096) :
    (List.range' first n).forM (copyIn base) s =
      ⟨.ok (), { s with registers.v := s.readFrom base first n }⟩ := by
  induction n generalizing s first with
  | zero =>
      rw [readFrom_zero]
      rfl
  | succ n ih =>
      have small : first < 16 := by omega
      have below : base + first < 4096 := by omega
      have read : s.readByte (base + first) = .ok s.memory.cells[base + first] :=
        Memory.read_of_lt s.memory below
      have copied : copyIn base first s =
          ⟨.ok (), s.put (.ofNat first) s.memory.cells[base + first]⟩ := by
        rw [copyIn, query_bind_of_ok read,
          setV_eq s _ (by rwa [toNat_ofNat_of_lt small]), UInt8.toUInt8_toUInt16]
      rw [List.range'_succ, forM_cons_of_ok copied, ih _ (by omega) (by omega),
        readFrom_succ s small below]
      rfl

/-- The bytes of the registers V0 to Vx. -/
def block (s : Store) (x : UInt8) : List UInt8 := s.registers.v.toList.take (x.toNat + 1)

/-- The registers with V0 to Vx read from memory at I. -/
def blockAt (s : Store) (x : UInt8) : Vector UInt8 16 :=
  Vector.ofFn fun r =>
    if r.val ≤ x.toNat then
      s.memory.cells[s.registers.i.toNat + r.val]?.getD (s.registers.v.get r)
    else s.registers.v.get r

/-- A block that does not fit is not copied in part. -/
theorem saveRegisters_eq (hx : x.toNat < 16) :
    s.saveRegisters x =
      if s.registers.i.toNat + x.toNat < 4096 then
        ⟨.ok (), { s with memory := s.memory.overlay s.registers.i.toNat (s.block x) }⟩
      else ⟨.error (.addressOutOfRange (s.registers.i.toNat + x.toNat)), s⟩ := by
  have index : s.getI = .ok s.registers.i := rfl
  have checked := checkBlock_eq hx s.index_lt
  rw [saveRegisters, query_bind_of_ok index]
  split
  next inside =>
    rw [if_pos inside] at checked
    rw [check_bind_of_ok checked, List.range_eq_range', copyOut_range' s (by omega) (by omega)]
    rfl
  next outside =>
    rw [if_neg outside] at checked
    exact check_bind_of_error checked

/-- A block that is not all there is not copied in part. -/
theorem loadRegisters_eq (hx : x.toNat < 16) :
    s.loadRegisters x =
      if s.registers.i.toNat + x.toNat < 4096 then
        ⟨.ok (), { s with registers.v := s.blockAt x }⟩
      else ⟨.error (.addressOutOfRange (s.registers.i.toNat + x.toNat)), s⟩ := by
  have index : s.getI = .ok s.registers.i := rfl
  have checked := checkBlock_eq hx s.index_lt
  have whole : s.readFrom s.registers.i.toNat 0 (x.toNat + 1) = s.blockAt x := by
    have range (r : Fin 16) : 0 ≤ r.val ∧ r.val < 0 + (x.toNat + 1) ↔ r.val ≤ x.toNat := by omega
    simp only [readFrom, blockAt, range]
  rw [loadRegisters, query_bind_of_ok index]
  split
  next inside =>
    rw [if_pos inside] at checked
    rw [check_bind_of_ok checked, List.range_eq_range', copyIn_range' s (by omega) (by omega),
      whole]
  next outside =>
    rw [if_neg outside] at checked
    exact check_bind_of_error checked

end

end Store

end Chip8
