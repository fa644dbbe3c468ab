import Chip8.Proofs.Cpu.Confinement

/-!
# Arithmetic

An arithmetic opcode reads its operands, then writes a result to one register and a flag
to VF, one after the other.  Both operands and the target may be VF itself.  The operands
are those from before the step in any case, since they are read first.  When the target is
VF, the write that comes later is the one that stays: an addition of two registers keeps
the flag (`FlagLast`), and a subtraction or a shift keeps the result (`ResultLast`).  An
addition of a byte writes no flag.

`Computes` says so for each of the five in terms of the numbers in the registers, and
`arithmetic_computes` proves it of every step.
-/

namespace Chip8

/-- The opcodes that calculate with numbers. -/
def Opcode.isArithmetic : Opcode → Bool
  | addByte _ _ | add _ _ | subtract _ _ | shiftRight _ _ | shiftLeft _ _ => true
  | _ => false

namespace Store

theorem value_put_put (s : Store) {x y : UInt8} (a b : UInt8) (hx : x.toNat < 16)
    (hy : y.toNat < 16) (k : UInt8) :
    ((s.put x a).put y b).value k = if k = y then b else if k = x then a else s.value k := by
  rw [value_put _ _ hy, value_put _ _ hx]

theorem toNat_sub_byte (a b : UInt8) : (a - b).toNat = (256 + a.toNat - b.toNat) % 256 := by
  have small := b.toNat_lt
  rw [UInt8.toNat_sub]
  omega

theorem toNat_flagByte (p : Prop) [Decidable p] : (flagByte p).toNat = if p then 1 else 0 := by
  by_cases h : p <;> simp [flagByte, h]

end Store

namespace Cpu

variable {δ : Type}

/-! ## What is computed -/

/-- The number in a V register. -/
def number (c : Cpu δ) (k : UInt8) : Nat := (c.store.value k).toNat

/-- The registers after a result was written, and then a flag. -/
structure FlagLast (c c' : Cpu δ) (target : UInt8) (result flag : Nat) : Prop where
  flag : c'.number Registers.flag = flag
  result : target ≠ Registers.flag → c'.number target = result
  others : ∀ k, k ≠ target → k ≠ Registers.flag → c'.number k = c.number k

/-- The registers after a flag was written, and then a result. -/
structure ResultLast (c c' : Cpu δ) (target : UInt8) (result flag : Nat) : Prop where
  result : c'.number target = result
  flag : target ≠ Registers.flag → c'.number Registers.flag = flag
  others : ∀ k, k ≠ target → k ≠ Registers.flag → c'.number k = c.number k

/-- What an arithmetic opcode makes of the registers. -/
def Computes (c c' : Cpu δ) : Opcode → Prop
  | .addByte x byte =>
      c'.number x = (c.number x + byte.toNat) % 256 ∧ ∀ k, k ≠ x → c'.number k = c.number k
  | .add x y =>
      FlagLast c c' x ((c.number x + c.number y) % 256)
        (if 255 < c.number x + c.number y then 1 else 0)
  | .subtract x y =>
      ResultLast c c' x ((256 + c.number x - c.number y) % 256)
        (if c.number x > c.number y then 1 else 0)
  | .shiftRight x y =>
      let shifted := c.shifted x y
      ResultLast c c' shifted (c.number shifted / 2) (c.number shifted % 2)
  | .shiftLeft x y =>
      let shifted := c.shifted x y
      ResultLast c c' shifted (c.number shifted * 2 % 256) (c.number shifted / 128)
  | _ => True

/-- An arithmetic opcode names V registers only. -/
theorem exists_register_of_writes (c : Cpu δ) {op : Opcode} {part : Part}
    (arithmetic : op.isArithmetic = true) (named : part ∈ c.writes op) :
    ∃ k, part = .register k := by
  cases op with
  | addByte x byte => exact ⟨x, List.mem_singleton.mp named⟩
  | add x y | subtract x y | shiftRight x y | shiftLeft x y =>
      simp only [writes, List.mem_cons, List.not_mem_nil, or_false] at named
      rcases named with rfl | rfl
      · exact ⟨_, rfl⟩
      · exact ⟨_, rfl⟩
  | _ => cases arithmetic

section
variable {c c' : Cpu δ} {target a b : UInt8}

theorem FlagLast.of_written
    (written : ∀ k, c'.store.value k =
      if k = Registers.flag then b else if k = target then a else c.store.value k) :
    FlagLast c c' target a.toNat b.toNat where
  flag := by rw [number, written, if_pos rfl]
  result apart := by rw [number, written, if_neg apart, if_pos rfl]
  others k other unflagged := by rw [number, written, if_neg unflagged, if_neg other, number]

theorem ResultLast.of_written
    (written : ∀ k, c'.store.value k =
      if k = target then a else if k = Registers.flag then b else c.store.value k) :
    ResultLast c c' target a.toNat b.toNat where
  result := by rw [number, written, if_pos rfl]
  flag apart := by rw [number, written, if_neg (Ne.symm apart), if_pos rfl]
  others k other unflagged := by rw [number, written, if_neg other, if_neg unflagged, number]

end

/-! ## Steps -/

section
variable [Display δ] {c : Cpu δ} {i : Instruction} {op : Opcode} {x y a b : UInt8}

/-- The step of an opcode that writes one register and then another. -/
theorem step_of_put_put (ready : Ready c i op) (falls : op.branches = false)
    {made : Attempt Fault Store Unit}
    (effect : c.tickTimers.execute op = c.tickTimers.thenNext made)
    (done : made = ⟨.ok (), (c.tickTimers.store.put x a).put y b⟩) (hx : x.toNat < 16)
    (hy : y.toNat < 16) :
    c.step.result = .ok op ∧ ∀ k, c.step.state.store.value k =
      if k = y then b else if k = x then a else c.store.value k := by
  obtain ⟨ok, store⟩ := step_of_effect ready falls effect done rfl
  refine ⟨ok, fun k => ?_⟩
  rw [store]
  exact Store.value_put_put c.tickTimers.store a b hx hy k

theorem computes_addByte {byte : UInt8} (ready : Ready c i (.addByte x byte)) :
    c.step.result = .ok (.addByte x byte) ∧ c.Computes c.step.state (.addByte x byte) := by
  have hx : x.toNat < 16 := ready.inRange
  obtain ⟨ok, store⟩ := step_of_effect ready rfl rfl (Store.addV_eq hx _) rfl
  have written (k : UInt8) : c.step.state.store.value k =
      if k = x then c.store.value x + byte else c.store.value k := by
    rw [store, UInt8.toUInt8_toUInt16]
    exact Store.value_put c.tickTimers.store _ hx k
  refine ⟨ok, ?_, ?_⟩
  · rw [number, written, if_pos rfl]
    exact UInt8.toNat_add _ _
  · intro k other
    rw [number, written, if_neg other, number]

theorem computes_add (ready : Ready c i (.add x y)) :
    c.step.result = .ok (.add x y) ∧ c.Computes c.step.state (.add x y) := by
  obtain ⟨hx, hy⟩ := ready.inRange
  obtain ⟨ok, written⟩ := step_of_put_put ready rfl rfl (Store.addRegisters_eq hx hy) hx
    Store.flag_lt
  have computed := FlagLast.of_written written
  rw [UInt8.toNat_add, Store.toNat_flagByte] at computed
  exact ⟨ok, computed⟩

theorem computes_subtract (ready : Ready c i (.subtract x y)) :
    c.step.result = .ok (.subtract x y) ∧ c.Computes c.step.state (.subtract x y) := by
  obtain ⟨hx, hy⟩ := ready.inRange
  obtain ⟨ok, written⟩ := step_of_put_put ready rfl rfl (Store.subtract_eq hx hy)
    Store.flag_lt hx
  have computed := ResultLast.of_written written
  simp only [gt_iff_lt, UInt8.lt_iff_toNat_lt] at computed
  rw [Store.toNat_flagByte, Store.toNat_sub_byte] at computed
  exact ⟨ok, computed⟩

theorem computes_shiftRight (ready : Ready c i (.shiftRight x y)) :
    c.step.result = .ok (.shiftRight x y) ∧ c.Computes c.step.state (.shiftRight x y) := by
  have there := shifted_lt c ready.inRange.1 ready.inRange.2
  obtain ⟨ok, written⟩ := step_of_put_put ready rfl rfl (Store.shiftRight_eq there)
    Store.flag_lt there
  have computed := ResultLast.of_written written
  rw [UInt8.toNat_div, UInt8.toNat_mod] at computed
  exact ⟨ok, computed⟩

theorem computes_shiftLeft (ready : Ready c i (.shiftLeft x y)) :
    c.step.result = .ok (.shiftLeft x y) ∧ c.Computes c.step.state (.shiftLeft x y) := by
  have there := shifted_lt c ready.inRange.1 ready.inRange.2
  obtain ⟨ok, written⟩ := step_of_put_put ready rfl rfl (Store.shiftLeft_eq there)
    Store.flag_lt there
  have computed := ResultLast.of_written written
  rw [UInt8.toNat_div, UInt8.toNat_mul] at computed
  exact ⟨ok, computed⟩

/-- An arithmetic opcode cannot fail any more, and computes what it should. -/
theorem computes_of_ready (ready : Ready c i op) (arithmetic : op.isArithmetic = true) :
    c.step.result = .ok op ∧ c.Computes c.step.state op := by
  cases op with
  | addByte x byte => exact computes_addByte ready
  | add x y => exact computes_add ready
  | subtract x y => exact computes_subtract ready
  | shiftRight x y => exact computes_shiftRight ready
  | shiftLeft x y => exact computes_shiftLeft ready
  | _ => cases arithmetic

/-- An arithmetic step computes from the numbers that were there before it, whichever registers it
names.  It changes no other register, and nothing else but PC and the timers that ticked. -/
theorem arithmetic_computes (ok : c.step.result = .ok op) (arithmetic : op.isArithmetic = true) :
    c.Computes c.step.state op ∧
      ∀ part, (∀ k, part ≠ .register k) → Kept 1 c c.step.state part := by
  obtain ⟨i, flow, done, store, ran⟩ := exists_of_step_ok ok
  refine ⟨(computes_of_ready ran.ready arithmetic).2, ?_⟩
  intro part apart
  apply kept_of_ready ran.ready
  intro named
  obtain ⟨k, register⟩ := exists_register_of_writes c arithmetic named
  exact apart k register

end

/-! ## Operations on the flag register -/

/-- Runs one instruction, with 0x90 in VF and 7 in V0. -/
def flagged (high low : UInt8) : Cpu FrameBuffer :=
  let loaded : Store := ⟨.image [high, low], .initial, [high, low], .below255⟩
  .new (loaded.performAll [.setV 0xF 0x90, .setV 0 7]) (.blank 64 32) 0

theorem step_flagged {high low : UInt8} {op : Opcode}
    (decoded : (⟨high, low⟩ : Instruction).decode? = some op)
    (arithmetic : op.isArithmetic = true) : (flagged high low).step.result = .ok op := by
  have fetched : (flagged high low).store.instruction = .ok ⟨high, low⟩ :=
    Store.instruction_of_image (k := 0) rfl rfl rfl rfl (show 2 ≤ Memory.programSpace by decide)
  have placed : checkFallThrough 0x200 op = .ok () :=
    checkFallThrough_eq_ok_iff.mpr (.inr (by decide))
  exact (computes_of_ready ⟨fetched, decoded, placed⟩ arithmetic).1

/-- VF added to itself becomes the carry, and otherwise it becomes the result, here of subtracting
V0 from it and of shifting it. -/
theorem flag_as_target :
    (flagged 0x8F 0xF4).step.state.number Registers.flag = 1 ∧
      (flagged 0x8F 0x05).step.state.number Registers.flag = 0x89 ∧
      (flagged 0x80 0xFE).step.state.number Registers.flag = 0x20 := by
  have doubled : (flagged 0x8F 0xF4).step.result = .ok (.add 0xF 0xF) := step_flagged rfl rfl
  have reduced : (flagged 0x8F 0x05).step.result = .ok (.subtract 0xF 0) := step_flagged rfl rfl
  have shifted : (flagged 0x80 0xFE).step.result = .ok (.shiftLeft 0 0xF) := step_flagged rfl rfl
  exact ⟨(arithmetic_computes doubled rfl).1.flag, (arithmetic_computes reduced rfl).1.result,
    (arithmetic_computes shifted rfl).1.result⟩

end Cpu

end Chip8
