import Chip8.Proofs.Cpu.Confinement
import Chip8.Proofs.Cpu.Verdict

/-!
# Storing to memory

The opcodes that move data between the V registers and the bytes at I check the last byte
that they touch, and nothing else can go wrong (`step_of_span`).  The address of that byte
is a sum that does not wrap, so an I near its top does not come round to the font.

* A block of registers is V0 to Vx.  Saving it and loading it need the same bytes, and
  neither moves I.  So a block that was saved can be loaded again wherever I and its bytes
  are still what they were, whatever became of the registers meanwhile (`block_restored`).
* The digits of a register go to three bytes, or in the literal layout all to one.  There
  three passes write a digit, read it back and write it again with the next one, and what
  they come to is a single write of zero (`digitPasses_three`).  `digits_stored` says so
  of every step.
-/

namespace Chip8

/-- The bytes of an overlay stand where they were written. -/
theorem Memory.getElem?_overlay_add (m : Memory) {start k : Nat} {bytes : List UInt8}
    (within : k < bytes.length) (inside : start + k < 0x1000) :
    (m.overlay start bytes).cells[start + k]? = bytes[k]? := by
  have covered : start ≤ start + k ∧ start + k - start < bytes.length := by omega
  rw [Memory.getElem?_overlay _ _ _ inside, if_pos covered, Nat.add_sub_cancel_left]

namespace Store

variable {s : Store} {x : UInt8}

/-! ## Blocks in memory -/

/-- The bytes from I on are the given ones, one for each register up to Vx. -/
def HoldsBlock (s : Store) (x : UInt8) (bytes : UInt8 → UInt8) : Prop :=
  ∀ r ≤ x, s.memory.cells[s.registers.i.toNat + r.toNat]? = some (bytes r)

theorem length_block (s : Store) (hx : x.toNat < 16) : (s.block x).length = x.toNat + 1 := by
  rw [block, List.length_take, Vector.length_toList]
  omega

theorem getElem?_block (s : Store) (hx : x.toNat < 16) {r : UInt8} (upTo : r ≤ x) :
    (s.block x)[r.toNat]? = some (s.value r) := by
  have below : r.toNat ≤ x.toNat := UInt8.le_iff_toNat_le.mp upTo
  have there : r.toNat < 16 := Nat.lt_of_le_of_lt below hx
  rw [block, List.getElem?_take_of_lt (Nat.lt_succ_of_le below), value]
  simp [there]

/-- A saved block stands in memory. -/
theorem holdsBlock_overlay (hx : x.toNat < 16)
    (fits : s.registers.i.toNat + x.toNat < 0x1000) :
    HoldsBlock { s with memory := s.memory.overlay s.registers.i.toNat (s.block x) } x s.value := by
  intro r upTo
  have below : r.toNat ≤ x.toNat := UInt8.le_iff_toNat_le.mp upTo
  have within : r.toNat < (s.block x).length := by
    rw [length_block s hx]
    exact Nat.lt_succ_of_le below
  rw [← getElem?_block s hx upTo]
  exact s.memory.getElem?_overlay_add within (by omega)

/-- A loaded block is what stood in memory. -/
theorem value_blockAt (hx : x.toNat < 16) {bytes : UInt8 → UInt8} (holds : s.HoldsBlock x bytes)
    {r : UInt8} (upTo : r ≤ x) : value { s with registers.v := s.blockAt x } r = bytes r := by
  have below : r.toNat ≤ x.toNat := UInt8.le_iff_toNat_le.mp upTo
  have there : r.toNat < 16 := Nat.lt_of_le_of_lt below hx
  change (s.blockAt x)[r.toNat]?.getD 0 = bytes r
  simp [blockAt, there, below, holds r upTo]

end Store

namespace Cpu

variable {δ : Type}

/-! ## The span of a step -/

/-- How a step ends that touches memory up to an address. -/
def endsAt (last : Nat) (op : Opcode) : Except Stop Opcode :=
  if last < 0x1000 then .ok op else .error (.fault (.addressOutOfRange last))

theorem endsAt_eq_ok_iff {last : Nat} {op : Opcode} :
    endsAt last op = .ok op ↔ last < 0x1000 := by
  rw [endsAt]
  split <;> simp_all

/-- A step whose one check is of the last byte that it touches. -/
theorem step_of_span [Display δ] {c : Cpu δ} {i : Instruction} {op : Opcode} (last : Nat)
    (ready : Ready c i op) (falls : op.branches = false) {a : Attempt Fault Store Unit}
    {s : Store} (effect : c.tickTimers.execute op = c.tickTimers.thenNext a)
    (checked : a = if last < 0x1000 then ⟨.ok (), s⟩
      else ⟨.error (.addressOutOfRange last), c.tickTimers.store⟩)
    (pc : s.registers.pc = c.store.registers.pc) :
    c.step.result = endsAt last op ∧ c.step.state.store =
      if last < 0x1000 then s.withPc (.ofNat (c.store.registers.pc.toNat + 2))
      else c.tickTimers.store := by
  rw [endsAt]
  rcases step_of_ite ready falls effect checked pc with ⟨fits, ended⟩ | ⟨beyond, ended⟩
  · rw [if_pos fits, if_pos fits]
    exact ended
  · rw [if_neg beyond, if_neg beyond]
    exact ended

/-! ## Blocks of registers -/

/-- The machine after V0 to Vx were saved. -/
structure BlockSaved (c c' : Cpu δ) (x : UInt8) : Prop where
  saved : ∀ r ≤ x,
    c'.store.memory.cells[c.store.registers.i.toNat + r.toNat]? = some (c.store.value r)
  beside : ∀ a, a < c.store.registers.i.toNat ∨ c.store.registers.i.toNat + x.toNat < a →
    c'.store.memory.cells[a]? = c.store.memory.cells[a]?
  index : c'.store.registers.i = c.store.registers.i

/-- The machine after some bytes were loaded into V0 to Vx. -/
structure BlockLoaded (c c' : Cpu δ) (x : UInt8) (bytes : UInt8 → UInt8) : Prop where
  loaded : ∀ r ≤ x, c'.store.value r = bytes r
  above : ∀ r > x, c'.store.value r = c.store.value r
  memory : c'.store.memory = c.store.memory
  index : c'.store.registers.i = c.store.registers.i

section
variable {c : Cpu δ} {x : UInt8}

theorem byte_not_mem_writes {a : Nat}
    (beside : a < c.store.registers.i.toNat ∨ c.store.registers.i.toNat + x.toNat < a) :
    .byte a ∉ c.writes (.saveRegisters x) := by
  intro named
  obtain ⟨r, upTo, same⟩ := List.mem_map.mp named
  obtain rfl : c.store.registers.i.toNat + r = a := Part.byte.inj same
  have below := List.mem_range.mp upTo
  omega

theorem register_not_mem_writes (hx : x.toNat < 16) {k : UInt8} (above : k > x) :
    .register k ∉ c.writes (.loadRegisters x) := by
  intro named
  obtain ⟨r, upTo, same⟩ := List.mem_map.mp named
  obtain rfl : .ofNat r = k := Part.register.inj same
  have below := List.mem_range.mp upTo
  have small : r < UInt8.size := by
    change r < 256
    omega
  have beyond := UInt8.lt_iff_toNat_lt.mp above
  rw [UInt8.toNat_ofNat_of_lt' small] at beyond
  omega

theorem index_not_mem_writes {op : Opcode} (block : op = .saveRegisters x ∨ op = .loadRegisters x) :
    .index ∉ c.writes op := by
  rcases block with rfl | rfl <;> simp [writes]

variable [Display δ] {i : Instruction}

theorem step_saveRegisters (ready : Ready c i (.saveRegisters x)) :
    c.step.result = endsAt (c.store.registers.i.toNat + x.toNat) (.saveRegisters x) ∧
      (c.step.result = .ok (.saveRegisters x) → BlockSaved c c.step.state x) := by
  have hx : x.toNat < 16 := ready.inRange
  obtain ⟨result, store⟩ := step_of_span (c.store.registers.i.toNat + x.toNat) ready rfl rfl
    (Store.saveRegisters_eq hx) rfl
  refine ⟨result, fun ok => ?_⟩
  have fits := endsAt_eq_ok_iff.mp (result.symm.trans ok)
  rw [if_pos fits] at store
  refine ⟨?_, fun a beside => kept_of_ready ready (byte_not_mem_writes beside),
    kept_of_ready ready (index_not_mem_writes (.inl rfl))⟩
  rw [store]
  exact Store.holdsBlock_overlay (s := c.tickTimers.store) hx fits

theorem step_loadRegisters (ready : Ready c i (.loadRegisters x)) :
    c.step.result = endsAt (c.store.registers.i.toNat + x.toNat) (.loadRegisters x) ∧
      ∀ bytes, c.step.result = .ok (.loadRegisters x) → c.store.HoldsBlock x bytes →
        BlockLoaded c c.step.state x bytes := by
  have hx : x.toNat < 16 := ready.inRange
  obtain ⟨result, store⟩ := step_of_span (c.store.registers.i.toNat + x.toNat) ready rfl rfl
    (Store.loadRegisters_eq hx) rfl
  refine ⟨result, fun bytes ok holds => ?_⟩
  have fits := endsAt_eq_ok_iff.mp (result.symm.trans ok)
  rw [if_pos fits] at store
  refine ⟨?_, fun r above => kept_of_ready ready (register_not_mem_writes hx above), ?_, ?_⟩
  · intro r upTo
    rw [store]
    exact Store.value_blockAt (s := c.tickTimers.store) hx holds upTo
  · rw [store, Store.withPc]
    dsimp only
    rfl
  · exact kept_of_ready ready (index_not_mem_writes (.inr rfl))

/-- A block of registers is saved and loaded under the same condition, and loading it gives back
what was saved, wherever I and its bytes are still the same. -/
theorem block_restored (c : Cpu δ) (x : UInt8) :
    (∀ i op, op = .saveRegisters x ∨ op = .loadRegisters x → Ready c i op →
        c.step.result = endsAt (c.store.registers.i.toNat + x.toNat) op) ∧
      (c.step.result = .ok (.saveRegisters x) → BlockSaved c c.step.state x ∧
        ∀ (d : Cpu δ) (j : Instruction), Ready d j (.loadRegisters x) →
          d.store.registers.i = c.store.registers.i →
          (∀ r ≤ x, d.store.memory.cells[c.store.registers.i.toNat + r.toNat]? =
            c.step.state.store.memory.cells[c.store.registers.i.toNat + r.toNat]?) →
          d.step.result = .ok (.loadRegisters x) ∧
            BlockLoaded d d.step.state x c.store.value) := by
  constructor
  · rintro i op (rfl | rfl) ready
    · exact (step_saveRegisters ready).1
    · exact (step_loadRegisters ready).1
  · intro ok
    obtain ⟨i, flow, done, store, ran⟩ := exists_of_step_ok ok
    obtain ⟨ended, saves⟩ := step_saveRegisters ran.ready
    refine ⟨saves ok, fun d j ready index same => ?_⟩
    have holds : d.store.HoldsBlock x c.store.value := by
      intro r upTo
      rw [index, same r upTo]
      exact (saves ok).saved r upTo
    obtain ⟨result, loads⟩ := step_loadRegisters ready
    have loaded : d.step.result = .ok (.loadRegisters x) := by
      rw [result, index]
      exact endsAt_eq_ok_iff.mpr (endsAt_eq_ok_iff.mp (ended.symm.trans ok))
    exact ⟨loaded, loads _ loaded holds⟩

end

/-- Saves V0 and V1, which are 7 and 9, and loads them again. -/
def savesTwo : Cpu FrameBuffer :=
  let program : List UInt8 := [0xF1, 0x55, 0xF1, 0x65]
  let loaded : Store := ⟨.image program, .initial, program, .below255⟩
  .new (loaded.performAll [.setV 0 7, .setV 1 9, .setI 0x300]) (.blank 64 32) 0

/-- A machine in which every V register became 42. -/
def overwritten (c : Cpu FrameBuffer) : Cpu FrameBuffer :=
  { c with store.registers.v := .replicate 16 42 }

theorem memory_overwritten (c : Cpu FrameBuffer) : c.overwritten.store.memory = c.store.memory :=
  rfl

theorem index_overwritten (c : Cpu FrameBuffer) :
    c.overwritten.store.registers.i = c.store.registers.i := rfl

theorem pc_overwritten (c : Cpu FrameBuffer) :
    c.overwritten.store.registers.pc = c.store.registers.pc := rfl

theorem value_two_overwritten (c : Cpu FrameBuffer) : c.overwritten.store.value 2 = 42 := rfl

theorem ready_savesTwo : Ready savesTwo ⟨0xF1, 0x55⟩ (.saveRegisters 1) where
  fetched := Store.instruction_of_image (k := 0) rfl rfl rfl rfl (by decide)
  decoded := rfl
  placed := rfl

theorem savesTwo_saves : savesTwo.step.result = .ok (.saveRegisters 1) := by
  rw [(step_saveRegisters ready_savesTwo).1]
  rfl

theorem ready_overwritten :
    Ready savesTwo.step.state.overwritten ⟨0xF1, 0x65⟩ (.loadRegisters 1) := by
  have saved := (step_saveRegisters ready_savesTwo).2 savesTwo_saves
  have place : savesTwo.step.state.overwritten.store.registers.pc.toNat = 0x202 := by
    rw [pc_overwritten]
    exact (Option.some.inj (nextPlace_of_ok savesTwo_saves)).symm
  have program {k : Nat} {byte : UInt8} (within : k < 4)
      (written : ([0xF1, 0x55, 0xF1, 0x65] : List UInt8)[k]? = some byte) :
      savesTwo.step.state.overwritten.store.readByte (0x200 + k) = .ok byte := by
    have inside : 0x200 + k < 0x1000 := by omega
    have below : 0x200 + k < 0x300 := by omega
    have cell : savesTwo.store.memory.cells[0x200 + k]? = some byte :=
      (Memory.getElem?_overlay_add _ within inside).trans written
    rw [← saved.beside _ (.inl below)] at cell
    rw [Store.readByte, memory_overwritten]
    exact Memory.read_eq_ok_iff.mpr cell
  refine ⟨Store.instruction_of_reads place (program (k := 2) (by decide) rfl)
    (program (k := 3) (by decide) rfl), rfl, ?_⟩
  rw [checkFallThrough_eq, place]
  rfl

/-- The registers that were saved get their values back, and the others keep the new one. -/
theorem two_restored :
    savesTwo.step.state.overwritten.step.result = .ok (.loadRegisters 1) ∧
      [0, 1, 2].map savesTwo.step.state.overwritten.step.state.store.value = [7, 9, 42] := by
  obtain ⟨-, saves⟩ := block_restored savesTwo 1
  obtain ⟨saved, restores⟩ := saves savesTwo_saves
  obtain ⟨loaded, block⟩ := restores _ _ ready_overwritten
    ((index_overwritten _).trans saved.index) fun _ _ => by rw [memory_overwritten]
  refine ⟨loaded, ?_⟩
  rw [List.map_cons, List.map_cons, List.map_cons, List.map_nil, block.loaded 0 (by decide),
    block.loaded 1 (by decide), block.above 2 (by decide), value_two_overwritten]
  rfl

/-! ## Digits in memory -/

/-- The machine after the digits of Vx were stored. -/
structure DigitsStored (c c' : Cpu δ) (x : UInt8) : Prop where
  canonical : c.dialect.digits = .canonical → ∃ hundreds tens ones : UInt8,
    c'.store.memory.cells[c.store.registers.i.toNat]? = some hundreds ∧
      c'.store.memory.cells[c.store.registers.i.toNat + 1]? = some tens ∧
      c'.store.memory.cells[c.store.registers.i.toNat + 2]? = some ones ∧
      hundreds ≤ 9 ∧ tens ≤ 9 ∧ ones ≤ 9 ∧
      100 * hundreds.toNat + 10 * tens.toNat + ones.toNat = (c.store.value x).toNat
  /-- The opcode passes three times over the byte after I, and that comes to a write of zero. -/
  literal : c.dialect.digits = .literal →
    c.store.storeDigits .literal x =
        c.store.digitPasses (c.store.registers.i.toNat + 1) 3 (c.store.value x).toNat ∧
      c.store.digitPasses (c.store.registers.i.toNat + 1) 3 (c.store.value x).toNat =
        c.store.writeByte (c.store.registers.i.toNat + 1) 0 ∧
      c.store.memory.write (c.store.registers.i.toNat + 1) 0 = ⟨.ok (), c'.store.memory⟩
  beside : ∀ a, .byte a ∉ c.writes (.storeDigits x) →
    c'.store.memory.cells[a]? = c.store.memory.cells[a]?

theorem decimal_digits (value : UInt8) :
    value / 100 ≤ 9 ∧ value / 10 % 10 ≤ 9 ∧ value % 10 ≤ 9 ∧
      100 * (value / 100).toNat + 10 * (value / 10 % 10).toNat + (value % 10).toNat =
        value.toNat := by
  have small := value.toNat_lt
  simp only [UInt8.le_iff_toNat_le, UInt8.toNat_div, UInt8.toNat_mod]
  change value.toNat / 100 ≤ 9 ∧ value.toNat / 10 % 10 ≤ 9 ∧ value.toNat % 10 ≤ 9 ∧
    100 * (value.toNat / 100) + 10 * (value.toNat / 10 % 10) + value.toNat % 10 = value.toNat
  omega

section
variable [Display δ] {c : Cpu δ} {i : Instruction} {x : UInt8}

theorem step_canonical (ready : Ready c i (.storeDigits x))
    (layout : c.dialect.digits = .canonical) :
    c.step.result = endsAt (c.store.registers.i.toNat + 2) (.storeDigits x) ∧
      if c.store.registers.i.toNat + 2 < 0x1000 then DigitsStored c c.step.state x
      else c.step.state.store.memory = c.store.memory := by
  have hx : x.toNat < 16 := ready.inRange
  have effect : c.tickTimers.execute (.storeDigits x) =
      c.tickTimers.thenNext (c.tickTimers.store.storeDigits .canonical x) := by
    rw [← layout]
    rfl
  obtain ⟨result, store⟩ := step_of_span (c.store.registers.i.toNat + 2) ready rfl effect
    (Store.storeDigits_canonical_eq hx) rfl
  refine ⟨result, ?_⟩
  by_cases fits : c.store.registers.i.toNat + 2 < 0x1000
  · rw [if_pos fits] at store ⊢
    have cell {k : Nat} (within : k < 3) :
        c.step.state.store.memory.cells[c.store.registers.i.toNat + k]? =
          (Store.decimalDigits (c.store.value x))[k]? := by
      rw [store]
      have inside : c.store.registers.i.toNat + k < 0x1000 := by omega
      exact Memory.getElem?_overlay_add c.store.memory within inside
    refine ⟨fun _ => ?_, fun other => ?_, fun a beside => kept_of_ready ready beside⟩
    · exact ⟨_, _, _, cell (k := 0) (by decide), cell (k := 1) (by decide),
        cell (k := 2) (by decide), decimal_digits _⟩
    · rw [layout] at other
      cases other
  · rw [if_neg fits] at store ⊢
    rw [store]
    rfl

theorem step_literal (ready : Ready c i (.storeDigits x)) (layout : c.dialect.digits = .literal) :
    c.step.result = endsAt (c.store.registers.i.toNat + 1) (.storeDigits x) ∧
      if c.store.registers.i.toNat + 1 < 0x1000 then DigitsStored c c.step.state x
      else c.step.state.store.memory = c.store.memory := by
  have hx : x.toNat < 16 := ready.inRange
  have effect : c.tickTimers.execute (.storeDigits x) =
      c.tickTimers.thenNext (c.tickTimers.store.storeDigits .literal x) := by
    rw [← layout]
    rfl
  obtain ⟨result, store⟩ := step_of_span (c.store.registers.i.toNat + 1) ready rfl effect
    (Store.storeDigits_literal_eq hx) rfl
  refine ⟨result, ?_⟩
  by_cases fits : c.store.registers.i.toNat + 1 < 0x1000
  · rw [if_pos fits] at store ⊢
    refine ⟨fun other => ?_, fun _ => ?_, fun a beside => kept_of_ready ready beside⟩
    · rw [layout] at other
      cases other
    · refine ⟨Store.storeDigits_literal _ hx, Store.digitPasses_three _ _ _, ?_⟩
      rw [store, Memory.write_of_lt _ _ fits, Store.set_eq_setIfInBounds]
      rfl
  · rw [if_neg fits] at store ⊢
    rw [store]
    rfl

/-- The digits of a register are stored when the last byte that they touch is there, and otherwise
nothing is written. -/
theorem digits_stored (ready : Ready c i (.storeDigits x)) :
    c.step.result = endsAt (c.store.registers.i.toNat + c.digitReach) (.storeDigits x) ∧
      if c.store.registers.i.toNat + c.digitReach < 0x1000 then DigitsStored c c.step.state x
      else c.step.state.store.memory = c.store.memory := by
  rw [digitReach]
  cases layout : c.dialect.digits with
  | literal => exact step_literal ready layout
  | canonical => exact step_canonical ready layout

end

/-- Stores the digits of 254 in some layout, with I at an address. -/
def storesDigits (digits : DigitLayout) (address : UInt16) : Cpu FrameBuffer :=
  let loaded : Store := ⟨.image [0xF0, 0x33], .initial, [0xF0, 0x33], .below255⟩
  (Cpu.new (loaded.performAll [.setV 0 254, .setI address]) (.blank 64 32) 0).setDialect { digits }

theorem ready_storesDigits (digits : DigitLayout) (address : UInt16) :
    Ready (storesDigits digits address) ⟨0xF0, 0x33⟩ (.storeDigits 0) where
  fetched := Store.instruction_of_image (k := 0) rfl rfl rfl rfl (by decide)
  decoded := rfl
  placed := checkFallThrough_eq_ok_iff.mpr (.inr (show CodeAddress.Valid 0x202 by decide))

/-- With I at the last byte but one, the literal layout finds its byte and the other one does not
find its third.  One place lower there is room for all of them. -/
theorem digits_at_the_top :
    (storesDigits .literal 0xFFE).step.result = .ok (.storeDigits 0) ∧
      (storesDigits .canonical 0xFFE).step.result = .error (.fault (.addressOutOfRange 0x1000)) ∧
      ∃ hundreds tens ones : UInt8,
        [0xFFD, 0xFFE, 0xFFF].map
            ((storesDigits .canonical 0xFFD).step.state.store.memory.cells[·]?) =
          [some hundreds, some tens, some ones] ∧
        100 * hundreds.toNat + 10 * tens.toNat + ones.toNat = 254 := by
  refine ⟨(digits_stored (ready_storesDigits .literal 0xFFE)).1,
    (digits_stored (ready_storesDigits .canonical 0xFFE)).1, ?_⟩
  obtain ⟨-, stored⟩ := digits_stored (ready_storesDigits .canonical 0xFFD)
  rw [if_pos (by decide)] at stored
  obtain ⟨hundreds, tens, ones, first, second, third, -, -, -, sum⟩ := stored.canonical rfl
  refine ⟨hundreds, tens, ones, ?_, sum⟩
  rw [List.map_cons, List.map_cons, List.map_cons, List.map_nil, ← first, ← second, ← third]
  rfl

end Cpu

end Chip8
