import Chip8.Proofs.Cpu.Crash
import Chip8.Proofs.Cpu.Failure

/-!
# Verdicts

How a step ends can be told before it is taken.  An instruction makes its checks one
after the other, and the first that fails decides (`Check.settle`).  `Cpu.checks`
lists the checks of every opcode in their order, in terms of the registers, the return
addresses, the dialect and the size of the plane.  `Cpu.verdict` puts in front of them
what every instruction has to pass: its word must be assigned, and in the last place
it must branch.

`step_result_eq_verdict` says that the verdict is right.  It leaves out the machines
that crash, which `step_crash_iff` has settled.  Three checks of the machine are not in
the list, since they never fail: the fetch at PC, the registers that a decoded
instruction names, and the bound on timers that count down (`Cpu.tick_eq`).
-/

namespace Chip8

/-! ## What never fails -/

/-- The instruction at PC, with zero for a byte that is not there. -/
def Store.word (s : Store) : Instruction :=
  ⟨s.memory.cells[s.registers.pc.toNat]?.getD 0,
    s.memory.cells[s.registers.pc.toNat + 1]?.getD 0⟩

theorem Store.Sound.fetched {s : Store} (sound : s.Sound) : s.instruction = .ok s.word := by
  obtain ⟨inside, even⟩ := sound.pc
  have hlow : s.registers.pc.toNat + 1 < 4096 := by omega
  rw [Store.instruction, Memory.read_of_lt _ inside, Memory.read_of_lt _ hlow, Store.word]
  simp [inside, hlow]
  rfl

namespace Memory

/-- A span that is no longer than the registers is cut out of memory or reaches beyond it. -/
theorem slice_of_small (m : Memory) {a n : Nat} (ha : a < UInt16.size) (small : n ≤ 16)
    (safe : n = 0 → a ≤ 4096) :
    if 0xFFF < a + n - 1 then m.slice a n = .error (.fault (.addressOutOfRange (a + n - 1)))
    else ∃ bytes, m.slice a n = .ok bytes := by
  rw [slice]
  by_cases empty : n = 0
  · have inside := safe empty
    subst empty
    rw [if_neg (by omega), checkSpan_zero]
    exact ⟨_, if_pos inside⟩
  · rw [checkSpan_of_small empty (Nat.lt_add_right 16 ha) small]
    by_cases beyond : 0xFFF < a + n - 1
    · rw [if_pos beyond, if_neg (by omega)]
    · rw [if_neg beyond, if_pos (by omega)]
      exact ⟨_, if_pos (show a ≤ 4096 by omega)⟩

end Memory

namespace CodeAddress

/-- Every place of an instruction but the last has a place after it. -/
theorem exists_check_after {a : UInt16} (valid : Valid a.toNat) (before : a ≠ 0xFFE) :
    ∃ t, check (a.toNat + 2) = .ok t ∧ Valid t.toNat := by
  have distinct : a.toNat ≠ 0xFFE := fun same => before (UInt16.toNat_inj.mp same)
  have inside : Valid (a.toNat + 2) := by
    unfold Valid at valid ⊢
    omega
  have small : a.toNat + 2 < UInt16.size := Nat.lt_trans inside.1 (by decide)
  refine ⟨.ofNat (a.toNat + 2), ?_, ?_⟩
  · exact (check_natCast (a.toNat + 2)).trans (if_pos inside)
  · rwa [UInt16.toNat_ofNat_of_lt' small]

end CodeAddress

/-! ## Checks -/

/-- A check: whether it fails, and with which fault. -/
structure Check where
  fails : Bool
  fault : Fault

namespace Check

variable {α β : Type} {check : Check} {rest : List Check}

/-- The result of an operation that makes some checks in order. -/
def settle (a : α) : List Check → Except Stop α
  | [] => .ok a
  | check :: rest => if check.fails then .error (.fault check.fault) else settle a rest

@[simp] theorem settle_nil (a : α) : settle a [] = .ok a := rfl

theorem settle_of_fails (a : α) (fails : check.fails = true) :
    settle a (check :: rest) = .error (.fault check.fault) := if_pos fails

theorem settle_of_passes (a : α) (passes : check.fails = false) :
    settle a (check :: rest) = settle a rest := by simp [settle, passes]

theorem map_settle (f : α → β) (a : α) (checks : List Check) :
    (settle a checks).map f = settle (f a) checks := by
  induction checks with
  | nil => rfl
  | cons check rest ih =>
      cases fails : check.fails with
      | true => rw [settle_of_fails _ fails, settle_of_fails _ fails]; rfl
      | false => rw [settle_of_passes _ fails, settle_of_passes _ fails, ih]

/-- The last byte that is touched has to be in memory. -/
def inMemory (last : Nat) : Check := ⟨0xFFF < last, .addressOutOfRange last⟩

/-- A target of twelve bits has to be even. -/
def evenTarget (target : UInt16) : Check := ⟨target.toNat % 2 = 1, .badTarget target.toNat⟩

end Check

namespace Cpu

section
variable {δ : Type} (c : Cpu δ)

/-- A skip that is taken needs a place past the next instruction. -/
def skipCheck (taken : Bool) : Check := ⟨taken && c.store.registers.pc == 0xFFC, .badTarget 0x1000⟩

/-- An instruction that does not branch needs a place after it. -/
def placeCheck (op : Opcode) : Check :=
  ⟨c.store.registers.pc == 0xFFE && !op.branches, .badTarget 0x1000⟩

/-- A timer takes 255 only in some dialects. -/
def timerCheck (value : UInt8) : Check :=
  ⟨c.dialect.timerBound = .below255 ∧ value = 255, .timerOutOfRange 255⟩

/-- How far behind I the digits of a register reach. -/
def digitReach : Nat :=
  match c.dialect.digits with
  | .literal => 1
  | .canonical => 2

/-- The checks of an opcode, in the order they are made. -/
def checks [Display δ] : Opcode → List Check
  | .ret =>
      [⟨c.store.registers.stack.frames = [], .stackUnderflow⟩,
        ⟨c.store.registers.stack.frames.getLast? = some 0xFFE, .badTarget 0x1000⟩]
  | .jump target => [.evenTarget target]
  | .call target =>
      [.evenTarget target, ⟨c.store.registers.stack.frames.length = 16, .stackOverflow⟩]
  | .skipIfByte x byte => [c.skipCheck (c.store.value x == byte)]
  | .skipUnlessByte x byte => [c.skipCheck (c.store.value x != byte)]
  | .skipIfSame x y => [c.skipCheck (c.store.value x == c.store.value y)]
  | .skipIfKeyUp x =>
      [⟨15 < (c.store.value x).toNat, .noSuchRegister (c.store.value x)⟩,
        c.skipCheck (c.keypad.down[(c.store.value x).toNat]? == some false)]
  | .setDelay x | .setSound x => [c.timerCheck (c.store.value x)]
  | .draw _ _ rows =>
      [.inMemory (c.store.registers.i.toNat + rows.toNat - 1),
        ⟨Display.width c.display = 0 ∨ Display.height c.display = 0, .addressOutOfRange 0⟩]
  | .storeDigits _ => [.inMemory (c.store.registers.i.toNat + c.digitReach)]
  | .saveRegisters x | .loadRegisters x => [.inMemory (c.store.registers.i.toNat + x.toNat)]
  | _ => []

/-- How the next step ends, if it does not crash. -/
def verdict [Display δ] : Except Stop Opcode :=
  match c.store.word.decode? with
  | none => .error (.fault (.unassigned c.store.word c.last))
  | some op => Check.settle op (c.placeCheck op :: c.checks op)

end

/-! ## Effects that make one check -/

section
variable {δ : Type} {c : Cpu δ}

/-- A target of twelve bits is checked through its lowest bit. -/
theorem check_target {target : UInt16} (below : target.toNat < 4096) :
    CodeAddress.check target.toNat =
      if target.toNat % 2 = 1 then .error (.badTarget target.toNat) else .ok target := by
  by_cases odd : target.toNat % 2 = 1
  · have invalid : ¬ CodeAddress.Valid target.toNat := by
      unfold CodeAddress.Valid
      omega
    rw [if_pos odd, CodeAddress.check_natCast, if_neg invalid]
  · have valid : CodeAddress.Valid target.toNat := by
      unfold CodeAddress.Valid
      omega
    rw [if_neg odd, CodeAddress.check_of_valid valid]

/-- A skip of four bytes fails from the place before the last one. -/
theorem follow_skip_result (sound : c.Sound)
    (placed : CodeAddress.Valid (c.store.registers.pc.toNat + 2)) :
    Stop.ofFault (c.store.follow .skip).result = Check.settle () [c.skipCheck true] := by
  have valid := sound.store.pc
  change Stop.ofFault (c.store.jump (c.store.registers.pc.toNat + 4 : Nat)).result = _
  rw [Store.jump_eq, CodeAddress.check_natCast]
  by_cases last : c.store.registers.pc = 0xFFC
  · have outside : ¬ CodeAddress.Valid (c.store.registers.pc.toNat + 4) := by
      rw [last]
      decide
    have fails : (c.skipCheck true).fails = true := by simp [skipCheck, last]
    rw [if_neg outside, Check.settle_of_fails _ fails, last]
    rfl
  · have passes : (c.skipCheck true).fails = false := by simp [skipCheck, last]
    have before : c.store.registers.pc.toNat ≠ 0xFFC := fun same => last (UInt16.toNat_inj.mp same)
    have inside : CodeAddress.Valid (c.store.registers.pc.toNat + 4) := by
      unfold CodeAddress.Valid at valid placed ⊢
      omega
    rw [if_pos inside, Check.settle_of_passes _ passes]
    rfl

/-- The bound on a timer that a program sets. -/
theorem ofFault_timer (sound : c.Sound) (value : UInt8) {s t : Store} :
    Stop.ofFault (if c.store.timerBound.accepts value then ⟨.ok (), s⟩
        else ⟨.error (.timerOutOfRange value), t⟩ : Attempt Fault Store Unit).result =
      Check.settle () [c.timerCheck value] := by
  rw [sound.bound]
  cases bound : c.dialect.timerBound with
  | full =>
    rw [Check.settle_of_passes _ (by simp [timerCheck, bound])]
    rfl
  | below255 =>
    by_cases top : value = 255
    · subst top
      rw [Check.settle_of_fails _ (by simp [timerCheck, bound])]
      rfl
    · rw [Check.settle_of_passes _ (by simp [timerCheck, top]), Store.accepts_of_ne _ top]
      rfl

/-- An effect on memory fails for the last byte that it would touch. -/
theorem ofFault_span (last : Nat) {s t : Store} :
    Stop.ofFault (if last < 4096 then ⟨.ok (), s⟩
        else ⟨.error (.addressOutOfRange last), t⟩ : Attempt Fault Store Unit).result =
      Check.settle () [.inMemory last] := by
  by_cases below : last < 4096
  · rw [if_pos below, Check.settle_of_passes _ (by simp [Check.inMemory]; omega)]
    rfl
  · rw [if_neg below, Check.settle_of_fails _ (by simp [Check.inMemory]; omega)]
    rfl

theorem storeDigits_result {x : UInt8} (hx : x.toNat < 16) :
    Stop.ofFault (c.store.storeDigits c.dialect.digits x).result =
      Check.settle () [.inMemory (c.store.registers.i.toNat + c.digitReach)] := by
  unfold digitReach
  cases c.dialect.digits with
  | literal =>
      rw [Store.storeDigits_literal_eq hx]
      exact ofFault_span _
  | canonical =>
      rw [Store.storeDigits_canonical_eq hx]
      exact ofFault_span _

end

/-! ## Executions -/

variable {δ : Type} [Display δ] {c : Cpu δ} {op : Opcode}

theorem executeAndMove_result_of_error {e : Stop} (failed : (c.execute op).result = .error e) :
    (c.executeAndMove op).result = .error e := by
  rw [executeAndMove_of_error failed]

theorem executeAndMove_result_of_jump {target : UInt16}
    (done : (c.execute op).result = .ok (.jump target))
    (valid : CodeAddress.Valid target.toNat) : (c.executeAndMove op).result = .ok () := by
  rw [executeAndMove_of_ok done, Store.follow, Store.jump_of_valid _ valid]
  rfl

theorem executeAndMove_result_of_next (inRange : op.InRange)
    (placed : CodeAddress.Valid (c.store.registers.pc.toNat + 2))
    (done : (c.execute op).result = .ok .next) : (c.executeAndMove op).result = .ok () := by
  have pc := (executed_of_result c inRange done).keeps.pc
  rw [executeAndMove_of_ok done, Store.follow_next_of_valid (by rwa [pc])]
  rfl

/-- An instruction that has its place fails where its effect does. -/
theorem executeAndMove_result_of_thenNext (inRange : op.InRange)
    (placed : CodeAddress.Valid (c.store.registers.pc.toNat + 2))
    {a : Attempt Fault Store Unit} (ran : c.execute op = c.thenNext a) :
    (c.executeAndMove op).result = Stop.ofFault a.result := by
  obtain ⟨result, s⟩ := a
  have told := congrArg Attempt.result ran
  cases result with
  | error f => exact executeAndMove_result_of_error told
  | ok u => exact executeAndMove_result_of_next inRange placed told

theorem executeAndMove_result_of_skipping {taken : Bool}
    (ran : c.execute op = c.skipping (.ok taken)) (sound : c.Sound)
    (placed : CodeAddress.Valid (c.store.registers.pc.toNat + 2)) :
    (c.executeAndMove op).result = Check.settle () [c.skipCheck taken] := by
  have done : (c.execute op).result = .ok (.skipWhen taken) := by
    rw [ran]
    rfl
  have state : (c.execute op).state = c := by
    rw [ran]
    rfl
  cases taken with
  | false =>
      rw [executeAndMove_of_ok done, state, Flow.skipWhen, if_neg Bool.false_ne_true,
        Store.follow_next_of_valid placed, Check.settle_of_passes _ rfl]
      rfl
  | true =>
      rw [← follow_skip_result sound placed, executeAndMove_of_ok done, state]
      rfl

theorem executeAndMove_ret (sound : c.Sound) :
    (c.executeAndMove .ret).result = Check.settle () (c.checks .ret) := by
  have ran : c.execute .ret = c.withStore c.store.returnFromCall := rfl
  rw [Store.returnFromCall_eq, ← ReturnStack.getLast?_frames] at ran
  rw [checks]
  cases top : c.store.registers.stack.frames.getLast? with
  | none =>
      rw [top] at ran
      have empty := List.getLast?_eq_none_iff.mp top
      rw [Check.settle_of_fails _ (by simp [empty])]
      exact executeAndMove_result_of_error (congrArg Attempt.result ran)
  | some a =>
      rw [top] at ran
      dsimp only at ran
      have member := List.mem_of_getLast? top
      have nonempty : c.store.registers.stack.frames ≠ [] := List.ne_nil_of_mem member
      rw [Check.settle_of_passes _ (by simp [nonempty])]
      by_cases last : a = 0xFFE
      · subst last
        rw [Check.settle_of_fails _ (by simp)]
        exact executeAndMove_result_of_error (congrArg Attempt.result ran)
      · obtain ⟨target, checked, valid⟩ :=
          CodeAddress.exists_check_after (sound.store.frames a member) last
        rw [checked] at ran
        rw [Check.settle_of_passes _ (by simp [last]), Check.settle_nil,
          executeAndMove_result_of_jump (congrArg Attempt.result ran) valid]

theorem executeAndMove_jump {target : UInt16} (below : target.toNat < 4096) :
    (c.executeAndMove (.jump target)).result = Check.settle () (c.checks (.jump target)) := by
  have ran : c.execute (.jump target) =
      c.going ((CodeAddress.check target.toNat).map .jump) := rfl
  rw [check_target below] at ran
  rw [checks]
  by_cases odd : target.toNat % 2 = 1
  · rw [if_pos odd] at ran
    rw [Check.settle_of_fails _ (by simp [Check.evenTarget, odd])]
    exact executeAndMove_result_of_error (congrArg Attempt.result ran)
  · have valid : CodeAddress.Valid target.toNat := ⟨below, by omega⟩
    rw [if_neg odd] at ran
    rw [Check.settle_of_passes _ (by simp [Check.evenTarget]; omega), Check.settle_nil,
      executeAndMove_result_of_jump (congrArg Attempt.result ran) valid]

theorem executeAndMove_call (sound : c.Sound) {target : UInt16} (below : target.toNat < 4096) :
    (c.executeAndMove (.call target)).result = Check.settle () (c.checks (.call target)) := by
  have ran : c.execute (.call target) = c.withStore (c.store.callTo target) := rfl
  rw [Store.callTo_eq, check_target below] at ran
  rw [checks]
  by_cases odd : target.toNat % 2 = 1
  · rw [if_pos odd] at ran
    rw [Check.settle_of_fails _ (by simp [Check.evenTarget, odd])]
    exact executeAndMove_result_of_error (congrArg Attempt.result ran)
  · have valid : CodeAddress.Valid target.toNat := ⟨below, by omega⟩
    rw [if_neg odd] at ran
    rw [Check.settle_of_passes _ (by simp [Check.evenTarget]; omega)]
    dsimp only at ran
    have pushed := ReturnStack.push_of_valid c.store.registers.stack sound.store.pc
    by_cases full : c.store.registers.stack.frames.length = 16
    · rw [if_pos full] at pushed
      have done : c.store.pushReturn none = _ := Store.pushReturn_of_push pushed
      rw [done] at ran
      rw [Check.settle_of_fails _ (by simp [full])]
      exact executeAndMove_result_of_error (congrArg Attempt.result ran)
    · rw [if_neg full] at pushed
      obtain ⟨stack, pushed⟩ := pushed
      have done : c.store.pushReturn none = _ := Store.pushReturn_of_push pushed
      rw [done] at ran
      rw [Check.settle_of_passes _ (by simp [full]), Check.settle_nil,
        executeAndMove_result_of_jump (congrArg Attempt.result ran) valid]

theorem executeAndMove_draw (honoured : c.DisplayHonoured) {x y rows : UInt8}
    (inRange : (Opcode.draw x y rows).InRange)
    (placed : CodeAddress.Valid (c.store.registers.pc.toNat + 2))
    (safe : rows.toNat = 0 → c.store.registers.i.toNat ≤ 4096) :
    (c.executeAndMove (.draw x y rows)).result = Check.settle () (c.checks (.draw x y rows)) := by
  have ran : c.execute (.draw x y rows) = c.draw x y rows := rfl
  have failing {e : Stop} (failed : c.spriteDots x y rows = .error e) :
      (c.executeAndMove (.draw x y rows)).result = .error e := by
    apply executeAndMove_result_of_error
    rw [ran, draw, failed]
  rw [spriteDots_eq c inRange.1 inRange.2.1] at failing
  have sliced := c.store.memory.slice_of_small c.store.index_lt (Nat.le_of_lt inRange.2.2) safe
  rw [checks]
  by_cases beyond : 0xFFF < c.store.registers.i.toNat + rows.toNat - 1
  · rw [if_pos beyond] at sliced
    rw [Check.settle_of_fails _ (by simp [Check.inMemory, beyond])]
    apply failing
    rw [sliced]
    rfl
  · rw [if_neg beyond] at sliced
    obtain ⟨bytes, sliced⟩ := sliced
    rw [sliced] at failing
    rw [Check.settle_of_passes _ (by simpa [Check.inMemory] using beyond)]
    by_cases empty : Display.width c.display = 0 ∨ Display.height c.display = 0
    · rw [Check.settle_of_fails _ (by simp [empty])]
      apply failing
      simp only [if_pos empty]
    · rw [Check.settle_of_passes _ (by simpa using empty), Check.settle_nil]
      obtain ⟨hw, hh⟩ := not_or.mp empty
      apply executeAndMove_result_of_next inRange placed
      -- Every dot lies on the plane, where a display that keeps its promise does not fail.
      have onPlane : ∃ hit, (Display.blit c.dialect.collision c.display false
          (Display.dots (Display.width c.display) (Display.height c.display)
            (c.store.value x).toNat (c.store.value y).toNat bytes)).result = .ok hit :=
        Display.blit_ok_of_honours honoured fun dot => Display.offset_lt_of_mem_dots hw hh
      obtain ⟨hit, drawn⟩ := onPlane
      rw [ran, draw, spriteDots_eq c inRange.1 inRange.2.1, sliced]
      simp only [if_neg empty, drawn, Store.setV_eq _ _ Store.flag_lt]
      rfl

theorem executeAndMove_keyUp (sound : c.Sound) {x : UInt8} (hx : x.toNat < 16)
    (placed : CodeAddress.Valid (c.store.registers.pc.toNat + 2)) :
    (c.executeAndMove (.skipIfKeyUp x)).result = Check.settle () (c.checks (.skipIfKeyUp x)) := by
  have ran : c.execute (.skipIfKeyUp x) =
      c.skipping (do return !(← c.keypad.isPressed (← c.store.getV x))) := rfl
  rw [Store.getV_eq _ hx, Store.ok_bind, Keypad.isPressed] at ran
  rw [checks]
  by_cases key : (c.store.value x).toNat < 16
  · rw [dif_pos key] at ran
    rw [Check.settle_of_passes _ (by simp; omega)]
    rw [executeAndMove_result_of_skipping ran sound placed]
    simp [key]
  · rw [dif_neg key] at ran
    rw [Check.settle_of_fails _ (by simp; omega)]
    exact executeAndMove_result_of_error (congrArg Attempt.result ran)

/-- An opcode without checks of its own is done, and goes on to the next instruction. -/
theorem execute_of_unchecked (inRange : op.InRange) (unchecked : c.checks op = []) :
    (c.execute op).result = .ok .next := by
  cases op with
  | loadByte x byte => rw [execute, Store.setV_eq _ _ inRange]; rfl
  | addByte x byte => rw [execute, Store.addV_eq inRange]; rfl
  | move x y => rw [execute, Store.move_eq inRange.1 inRange.2]; rfl
  | conjoin x y => rw [execute, Store.conjoin_eq inRange.1 inRange.2]; rfl
  | add x y => rw [execute, Store.addRegisters_eq inRange.1 inRange.2]; rfl
  | subtract x y => rw [execute, Store.subtract_eq inRange.1 inRange.2]; rfl
  | shiftRight x y =>
      rw [execute, Store.shiftRight_eq (shifted_lt c inRange.1 inRange.2)]
      rfl
  | shiftLeft x y =>
      rw [execute, Store.shiftLeft_eq (shifted_lt c inRange.1 inRange.2)]
      rfl
  | loadIndex address => rfl
  | addIndex x => rw [execute, Store.addIndex_eq inRange]; rfl
  | loadGlyph x => rw [execute, Store.loadGlyph_eq inRange]; rfl
  | random x mask =>
      rw [execute, drawRandom]
      dsimp only
      rw [Store.setV_eq _ _ inRange]
      rfl
  | readDelay x => rw [execute, Store.readDelay_eq inRange]; rfl
  | _ => cases unchecked

/-- An instruction that has its place ends as its checks say. -/
theorem executeAndMove_result (sound : c.Sound) (honoured : c.DisplayHonoured)
    (inRange : op.InRange) (placed : checkFallThrough c.store.registers.pc op = .ok ())
    (safe : ∀ x y, op = .draw x y 0 → c.store.registers.i.toNat ≤ 4096) :
    (c.executeAndMove op).result = Check.settle () (c.checks op) := by
  have place := place_of_falls placed
  cases op with
  | ret => exact executeAndMove_ret sound
  | jump target => exact executeAndMove_jump inRange
  | call target => exact executeAndMove_call sound inRange
  | skipIfByte x byte =>
      refine executeAndMove_result_of_skipping ?_ sound (place rfl)
      rw [execute, Store.getV_eq _ inRange]
      rfl
  | skipUnlessByte x byte =>
      refine executeAndMove_result_of_skipping ?_ sound (place rfl)
      rw [execute, Store.getV_eq _ inRange]
      rfl
  | skipIfSame x y =>
      refine executeAndMove_result_of_skipping ?_ sound (place rfl)
      rw [execute, Store.getV_eq _ inRange.1, Store.getV_eq _ inRange.2]
      rfl
  | skipIfKeyUp x => exact executeAndMove_keyUp sound inRange (place rfl)
  | draw x y rows =>
      refine executeAndMove_draw honoured inRange (place rfl) ?_
      intro empty
      obtain rfl : rows = 0 := UInt8.toNat_inj.mp empty
      exact safe x y rfl
  | setDelay x =>
      rw [executeAndMove_result_of_thenNext inRange (place rfl) rfl,
        Store.startDelay_eq inRange, Store.setDelay_eq]
      exact ofFault_timer sound _
  | setSound x =>
      rw [executeAndMove_result_of_thenNext inRange (place rfl) rfl,
        Store.startSound_eq inRange, Store.setSound_eq]
      exact ofFault_timer sound _
  | storeDigits x =>
      rw [executeAndMove_result_of_thenNext inRange (place rfl) rfl]
      exact storeDigits_result inRange
  | saveRegisters x =>
      rw [executeAndMove_result_of_thenNext inRange (place rfl) rfl,
        Store.saveRegisters_eq inRange]
      exact ofFault_span _
  | loadRegisters x =>
      rw [executeAndMove_result_of_thenNext inRange (place rfl) rfl,
        Store.loadRegisters_eq inRange]
      exact ofFault_span _
  | _ =>
      exact executeAndMove_result_of_next inRange (place rfl)
        (execute_of_unchecked inRange rfl)

/-! ## Steps -/

/-- The tick of the timers changes nothing that a check looks at. -/
theorem checks_tickTimers (c : Cpu δ) (op : Opcode) : c.tickTimers.checks op = c.checks op := rfl

theorem step_result_of_sound (sound : c.Sound) (honoured : c.DisplayHonoured)
    (safe : ¬ c.DrawsBeyond) : c.step.result = c.verdict := by
  have fetched := sound.store.fetched
  rw [verdict]
  cases decoded : c.store.word.decode? with
  | none =>
      rw [step]
      simp only [fetched, decoded]
  | some op =>
      rw [step_of_decoded fetched decoded]
      dsimp only
      cases placed : checkFallThrough c.store.registers.pc op with
      | error f =>
          obtain ⟨falls, outside, rfl⟩ := checkFallThrough_fault placed
          have last := last_place_of_outside sound.store.pc outside
          rw [Check.settle_of_fails _ (by simp [placeCheck, falls, last]), runDecoded]
          simp only [placed]
          rw [last]
          rfl
      | ok u =>
          have passes : (c.placeCheck op).fails = false := by
            rcases checkFallThrough_eq_ok_iff.mp placed with branches | valid
            · simp [placeCheck, branches]
            · have before : c.store.registers.pc ≠ 0xFFE := by
                intro last
                rw [last] at valid
                exact absurd valid (by decide)
              simp [placeCheck, before]
          have within : ∀ x y, op = .draw x y 0 → c.store.registers.i.toNat ≤ 4096 := by
            rintro x y rfl
            exact Nat.le_of_not_lt fun beyond =>
              safe ⟨⟨_, x, y, fetched, decoded⟩, place_of_falls placed rfl, beyond⟩
          rw [Check.settle_of_passes _ passes, runDecoded_result placed,
            executeAndMove_result sound.tickTimers honoured
              (Instruction.inRange_of_decode? decoded) placed within,
            checks_tickTimers, Check.map_settle]

/-- Every step ends as its verdict says, in every machine over a frame buffer that an owner can
come to, unless it crashes. -/
theorem step_result_eq_verdict {c : Cpu FrameBuffer} (reachable : c.Reachable)
    (safe : ¬ c.DrawsBeyond) :
    c.store.instruction = .ok c.store.word ∧ c.step.result = c.verdict := by
  have sound := reachable.sound
  exact ⟨sound.store.fetched, step_result_of_sound sound c.display.honours safe⟩

/-- A sprite that reaches beyond memory is told for that, also where the plane has no pixels. -/
theorem span_told_before_plane :
    let loaded : Store := ⟨.image [0xD0, 0x0F], .initial, [0xD0, 0x0F], .below255⟩
    let c : Cpu FrameBuffer := .new (loaded.performAll [.setI 0xFF8]) (.blank 0 5) 0
    ¬ c.DrawsBeyond ∧ c.store.instruction = .ok ⟨0xD0, 0x0F⟩ ∧
      c.step.result = .error (.fault (.addressOutOfRange 0x1006)) := by
  intro loaded c
  have accepted : Store.ofProgram? [0xD0, 0x0F] = .ok loaded := rfl
  have reachable : c.Reachable := .new accepted _ _ 0
  have fetched : c.store.instruction = .ok ⟨0xD0, 0x0F⟩ :=
    Store.instruction_of_image (k := 0) rfl rfl rfl rfl (by decide)
  have safe : ¬ c.DrawsBeyond := fun draws => absurd draws.beyond (by decide)
  obtain ⟨found, told⟩ := step_result_eq_verdict reachable safe
  have word := Except.ok.inj (found.symm.trans fetched)
  refine ⟨safe, fetched, ?_⟩
  rw [told, verdict, word]
  rfl

end Cpu

end Chip8
