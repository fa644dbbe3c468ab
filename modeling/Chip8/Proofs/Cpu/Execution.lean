import Chip8.Cpu.Step
import Chip8.Proofs.Display.Contract
import Chip8.Proofs.Operands
import Chip8.Proofs.Store.Effects

/-!
# What an execution leaves

One relation says everything that the execution of a decoded opcode can leave
(`Cpu.Executed`): a failure that kept the machine but for pixels, a change that
goes on to the next instruction, a skip of an unchanged machine, a jump, a call
or a return.  `executed` proves it for every opcode, and is the only place where
the arms of `Cpu.execute` are gone through for it.
-/

namespace Chip8

/-- A stop that running an instruction can lead to.  That a word is unassigned is found before,
when it is decoded. -/
def Stop.IsPastDecoding : Stop → Prop
  | .fault (.unassigned _ _) => False
  | _ => True

/-- What the effects of instructions that only go on to the next one leave alone. -/
structure Store.Keeps (s t : Store) : Prop where
  pc : t.registers.pc = s.registers.pc
  stack : t.registers.stack = s.registers.stack
  program : t.program = s.program
  timerBound : t.timerBound = s.timerBound

namespace Cpu

variable {δ : Type}

/-! ## What stays -/

/-- What no execution changes. -/
structure Keeps (c c' : Cpu δ) : Prop where
  pc : c'.store.registers.pc = c.store.registers.pc
  program : c'.store.program = c.store.program
  timerBound : c'.store.timerBound = c.store.timerBound
  keypad : c'.keypad = c.keypad
  bell : c'.bell = c.bell
  dialect : c'.dialect = c.dialect
  cycles : c'.cycles = c.cycles
  last : c'.last = c.last

theorem Keeps.refl (c : Cpu δ) : Keeps c c := ⟨rfl, rfl, rfl, rfl, rfl, rfl, rfl, rfl⟩

/-- The machine with another return stack. -/
def withStack (c : Cpu δ) (stack : ReturnStack) : Cpu δ :=
  { c with store.registers.stack := stack }

theorem keeps_withStack (c : Cpu δ) (stack : ReturnStack) : Keeps c (c.withStack stack) :=
  ⟨rfl, rfl, rfl, rfl, rfl, rfl, rfl, rfl⟩

/-! ## The relation -/

/-- What the execution of an opcode can leave. -/
inductive Executed [Display δ] (c : Cpu δ) (op : Opcode) :
    Attempt Stop (Cpu δ) Flow → Prop where
  /-- It failed and changed nothing. -/
  | failed {e : Stop} (decoded : e.IsPastDecoding) : Executed c op ⟨.error e, c⟩
  /-- The display failed in the middle of a sprite, all of which lies on the plane. -/
  | broken {dots : List Display.Dot} {f : Fault}
      (inside : ∀ dot ∈ dots, dot.offset < Display.width c.display * Display.height c.display)
      (broke : (Display.blit c.dialect.collision c.display false dots).result = .error f) :
      Executed c op ⟨.error (.fault f),
        { c with display := (Display.blit c.dialect.collision c.display false dots).state }⟩
  /-- It was done, the return stack was left alone, and the display was drawn on at most. -/
  | next {c' : Cpu δ} {dots : List Display.Dot} (falls : op.branches = false)
      (keeps : Keeps c c') (stack : c'.store.registers.stack = c.store.registers.stack)
      (inside : ∀ dot ∈ dots, dot.offset < Display.width c.display * Display.height c.display)
      (drawn : c'.display = (Display.blit c.dialect.collision c.display false dots).state) :
      Executed c op ⟨.ok .next, c'⟩
  /-- It found that the next instruction is to be skipped. -/
  | skip (falls : op.branches = false) : Executed c op ⟨.ok .skip, c⟩
  /-- It jumped. -/
  | jump {target : UInt16} (jumps : op = .jump target) (valid : CodeAddress.Valid target.toNat) :
      Executed c op ⟨.ok (.jump target), c⟩
  /-- It pushed PC and jumped. -/
  | call {target : UInt16} {stack : ReturnStack} (calls : op = .call target)
      (valid : CodeAddress.Valid target.toNat)
      (pushed : c.store.registers.stack.push c.store.registers.pc = ⟨.ok (), stack⟩) :
      Executed c op ⟨.ok (.jump target), c.withStack stack⟩
  /-- It dropped the address on top and jumped to the instruction after it. -/
  | ret {a target : UInt16} (returns : op = .ret)
      (top : c.store.registers.stack.top? = some a) (after : target.toNat = a.toNat + 2)
      (valid : CodeAddress.Valid target.toNat) :
      Executed c op ⟨.ok (.jump target), c.withStack c.store.registers.stack.drop⟩

namespace Executed

variable [Display δ] {c : Cpu δ} {op : Opcode}

theorem keeps {a : Attempt Stop (Cpu δ) Flow} (h : Executed c op a) : Keeps c a.state := by
  cases h with
  | failed => exact .refl c
  | broken => exact ⟨rfl, rfl, rfl, rfl, rfl, rfl, rfl, rfl⟩
  | next _ keeps => exact keeps
  | skip => exact .refl c
  | jump => exact .refl c
  | call => exact keeps_withStack c _
  | ret => exact keeps_withStack c _

/-- The display afterwards is the display before with some dots drawn, all on the plane. -/
theorem display {a : Attempt Stop (Cpu δ) Flow} (h : Executed c op a) :
    ∃ dots : List Display.Dot,
      (∀ dot ∈ dots, dot.offset < Display.width c.display * Display.height c.display) ∧
        a.state.display = (Display.blit c.dialect.collision c.display false dots).state := by
  cases h with
  | failed => exact ⟨[], nofun, rfl⟩
  | broken inside _ => exact ⟨_, inside, rfl⟩
  | next _ _ _ inside drawn => exact ⟨_, inside, drawn⟩
  | skip => exact ⟨[], nofun, rfl⟩
  | jump => exact ⟨[], nofun, rfl⟩
  | call => exact ⟨[], nofun, rfl⟩
  | ret => exact ⟨[], nofun, rfl⟩

/-! ### The shapes of an arm -/

theorem next_undrawn {c' : Cpu δ} (falls : op.branches = false) (keeps : Keeps c c')
    (stack : c'.store.registers.stack = c.store.registers.stack)
    (display : c'.display = c.display) : Executed c op ⟨.ok .next, c'⟩ :=
  .next falls keeps stack (List.forall_mem_nil _) display

theorem thenNext_ok (falls : op.branches = false) {s : Store} (keeps : c.store.Keeps s) :
    Executed c op (c.thenNext ⟨.ok (), s⟩) :=
  next_undrawn falls ⟨keeps.pc, keeps.program, keeps.timerBound, rfl, rfl, rfl, rfl, rfl⟩
    keeps.stack rfl

theorem thenNext_ite (falls : op.branches = false) {fits : Prop} [Decidable fits] {s : Store}
    {f : Fault} (decoded : (Stop.fault f).IsPastDecoding) (keeps : c.store.Keeps s) :
    Executed c op (c.thenNext (if fits then ⟨.ok (), s⟩ else ⟨.error f, c.store⟩)) := by
  split
  · exact thenNext_ok falls keeps
  · exact .failed decoded

theorem skipping_ok (falls : op.branches = false) (condition : Bool) :
    Executed c op (c.skipping (.ok condition)) := by
  cases condition with
  | false => exact next_undrawn falls (.refl c) rfl rfl
  | true => exact .skip falls

end Executed

/-! ## The arms -/

theorem shifted_lt (c : Cpu δ) {x y : UInt8} (hx : x.toNat < 16) (hy : y.toNat < 16) :
    (c.shifted x y).toNat < 16 := by
  unfold shifted
  split
  · exact hy
  · exact hx

section
variable [Display δ] (c : Cpu δ)

theorem executed_ret : Executed c .ret (c.withStore c.store.returnFromCall) := by
  rw [Store.returnFromCall_eq]
  cases top : c.store.registers.stack.top? with
  | none => exact .failed trivial
  | some a =>
      dsimp only
      cases checked : CodeAddress.check (a.toNat + 2) with
      | error f =>
          obtain rfl := CodeAddress.check_fault checked
          exact .failed trivial
      | ok target =>
          obtain ⟨after, valid⟩ := CodeAddress.check_eq_ok_iff.mp checked
          exact .ret rfl top (by omega) valid

theorem executed_jump (target : UInt16) :
    Executed c (.jump target) (c.going ((CodeAddress.check target.toNat).map .jump)) := by
  cases checked : CodeAddress.check target.toNat with
  | error f =>
      obtain rfl := CodeAddress.check_fault checked
      exact .failed trivial
  | ok t =>
      obtain ⟨same, valid⟩ := CodeAddress.check_eq_ok_iff.mp checked
      obtain rfl : target = t := UInt16.toNat_inj.mp (by omega)
      exact .jump rfl valid

theorem executed_call (target : UInt16) :
    Executed c (.call target) (c.withStore (c.store.callTo target)) := by
  rw [Store.callTo_eq]
  cases checked : CodeAddress.check target.toNat with
  | error f =>
      obtain rfl := CodeAddress.check_fault checked
      exact .failed trivial
  | ok t =>
      obtain ⟨same, valid⟩ := CodeAddress.check_eq_ok_iff.mp checked
      obtain rfl : target = t := UInt16.toNat_inj.mp (by omega)
      obtain ⟨stack, pushed, done⟩ | ⟨f, -, refused, cause⟩ := c.store.pushReturn_cases none
      · rw [done]
        exact .call rfl valid pushed
      · rw [refused]
        rcases cause with rfl | rfl <;> exact .failed trivial

theorem executed_keyUp {x : UInt8} (hx : x.toNat < 16) :
    Executed c (.skipIfKeyUp x)
      (c.skipping (do return !(← c.keypad.isPressed (← c.store.getV x)))) := by
  rw [Store.getV_eq _ hx, Store.ok_bind, Keypad.isPressed]
  split
  · exact .skipping_ok rfl _
  · exact .failed trivial

theorem executed_random {x : UInt8} (hx : x.toNat < 16) (mask : UInt8) :
    Executed c (.random x mask) (c.drawRandom x mask) := by
  rw [drawRandom]
  dsimp only
  rw [Store.setV_eq _ _ hx]
  exact .next_undrawn rfl ⟨rfl, rfl, rfl, rfl, rfl, rfl, rfl, rfl⟩ rfl rfl

/-- The dots of a sprite, its registers being there. -/
theorem spriteDots_eq {x y : UInt8} (hx : x.toNat < 16) (hy : y.toNat < 16) (rows : UInt8) :
    c.spriteDots x y rows =
      match c.store.memory.slice c.store.registers.i.toNat rows.toNat with
      | .error e => .error e
      | .ok bytes =>
          let width := Display.width c.display
          let height := Display.height c.display
          if width = 0 ∨ height = 0 then .error (.fault (.addressOutOfRange 0))
          else .ok (Display.dots width height (c.store.value x).toNat (c.store.value y).toNat
            bytes) := by
  rw [spriteDots, Store.getV_eq _ hx, Store.getV_eq _ hy]
  rfl

theorem executed_draw {x y : UInt8} (hx : x.toNat < 16) (hy : y.toNat < 16) (rows : UInt8) :
    Executed c (.draw x y rows) (c.draw x y rows) := by
  rw [draw, spriteDots_eq c hx hy]
  cases sliced : c.store.memory.slice c.store.registers.i.toNat rows.toNat with
  | error e =>
      cases e with
      | crash => exact .failed trivial
      | fault f =>
          obtain ⟨k, rfl⟩ := Memory.slice_fault sliced
          exact .failed trivial
  | ok bytes =>
      dsimp only
      by_cases empty : Display.width c.display = 0 ∨ Display.height c.display = 0
      · rw [if_pos empty]
        exact .failed trivial
      · rw [if_neg empty]
        dsimp only
        have ⟨hw, hh⟩ := not_or.mp empty
        cases drawn : (Display.blit c.dialect.collision c.display false _).result with
        | error f => exact .broken (fun dot => Display.offset_lt_of_mem_dots hw hh) drawn
        | ok hit =>
            dsimp only
            rw [Store.setV_eq _ _ Store.flag_lt]
            exact .next rfl ⟨rfl, rfl, rfl, rfl, rfl, rfl, rfl, rfl⟩ rfl
              (fun dot => Display.offset_lt_of_mem_dots hw hh) rfl

theorem executed_storeDigits {x : UInt8} (hx : x.toNat < 16) :
    Executed c (.storeDigits x) (c.thenNext (c.store.storeDigits c.dialect.digits x)) := by
  cases c.dialect.digits with
  | literal =>
      rw [Store.storeDigits_literal_eq hx]
      exact .thenNext_ite rfl trivial ⟨rfl, rfl, rfl, rfl⟩
  | canonical =>
      rw [Store.storeDigits_canonical_eq hx]
      exact .thenNext_ite rfl trivial ⟨rfl, rfl, rfl, rfl⟩

/-- Every decoded opcode leaves what the relation says. -/
theorem executed {op : Opcode} (inRange : op.InRange) : Executed c op (c.execute op) := by
  cases op with
  | ret => exact executed_ret c
  | jump target => exact executed_jump c target
  | call target => exact executed_call c target
  | skipIfByte x byte =>
      rw [execute, Store.getV_eq _ inRange]
      exact .skipping_ok rfl _
  | skipUnlessByte x byte =>
      rw [execute, Store.getV_eq _ inRange]
      exact .skipping_ok rfl _
  | skipIfSame x y =>
      rw [execute, Store.getV_eq _ inRange.1, Store.getV_eq _ inRange.2]
      exact .skipping_ok rfl _
  | skipIfKeyUp x => exact executed_keyUp c inRange
  | loadByte x byte =>
      rw [execute, Store.setV_eq _ _ inRange]
      exact .thenNext_ok rfl ⟨rfl, rfl, rfl, rfl⟩
  | addByte x byte =>
      rw [execute, Store.addV_eq inRange]
      exact .thenNext_ok rfl ⟨rfl, rfl, rfl, rfl⟩
  | move x y =>
      rw [execute, Store.move_eq inRange.1 inRange.2]
      exact .thenNext_ok rfl ⟨rfl, rfl, rfl, rfl⟩
  | conjoin x y =>
      rw [execute, Store.conjoin_eq inRange.1 inRange.2]
      exact .thenNext_ok rfl ⟨rfl, rfl, rfl, rfl⟩
  | add x y =>
      rw [execute, Store.addRegisters_eq inRange.1 inRange.2]
      exact .thenNext_ok rfl ⟨rfl, rfl, rfl, rfl⟩
  | subtract x y =>
      rw [execute, Store.subtract_eq inRange.1 inRange.2]
      exact .thenNext_ok rfl ⟨rfl, rfl, rfl, rfl⟩
  | shiftRight x y =>
      rw [execute, Store.shiftRight_eq (shifted_lt c inRange.1 inRange.2)]
      exact .thenNext_ok rfl ⟨rfl, rfl, rfl, rfl⟩
  | shiftLeft x y =>
      rw [execute, Store.shiftLeft_eq (shifted_lt c inRange.1 inRange.2)]
      exact .thenNext_ok rfl ⟨rfl, rfl, rfl, rfl⟩
  | loadIndex address => exact .thenNext_ok rfl ⟨rfl, rfl, rfl, rfl⟩
  | addIndex x =>
      rw [execute, Store.addIndex_eq inRange]
      exact .thenNext_ok rfl ⟨rfl, rfl, rfl, rfl⟩
  | loadGlyph x =>
      rw [execute, Store.loadGlyph_eq inRange]
      exact .thenNext_ok rfl ⟨rfl, rfl, rfl, rfl⟩
  | random x mask => exact executed_random c inRange mask
  | draw x y rows => exact executed_draw c inRange.1 inRange.2.1 rows
  | readDelay x =>
      rw [execute, Store.readDelay_eq inRange]
      exact .thenNext_ok rfl ⟨rfl, rfl, rfl, rfl⟩
  | setDelay x =>
      rw [execute, Store.startDelay_eq inRange, Store.setDelay_eq]
      exact .thenNext_ite rfl trivial ⟨rfl, rfl, rfl, rfl⟩
  | setSound x =>
      rw [execute, Store.startSound_eq inRange, Store.setSound_eq]
      exact .thenNext_ite rfl trivial ⟨rfl, rfl, rfl, rfl⟩
  | storeDigits x => exact executed_storeDigits c inRange
  | saveRegisters x =>
      rw [execute, Store.saveRegisters_eq inRange]
      exact .thenNext_ite rfl trivial ⟨rfl, rfl, rfl, rfl⟩
  | loadRegisters x =>
      rw [execute, Store.loadRegisters_eq inRange]
      exact .thenNext_ite rfl trivial ⟨rfl, rfl, rfl, rfl⟩

theorem executed_of_result {op : Opcode} (inRange : op.InRange) {r : Except Stop Flow}
    (given : (c.execute op).result = r) : Executed c op ⟨r, (c.execute op).state⟩ := by
  rw [← given]
  exact executed c inRange

end

end Cpu

end Chip8
