import Chip8.Proofs.Cpu.Calls
import Chip8.Proofs.Cpu.Timing

/-!
# Confinement

An opcode tells what its step may change.  The machine is taken apart (`Cpu.Part`) down
to single bytes and registers, and `Cpu.writes` lists the parts that an opcode names,
given I, the dialect and its operands.

An attempt at a step keeps every part that it does not touch (`kept_step`), and so does
any number of attempts (`kept_after`).  A timer is kept when it has only ticked.  What
no opcode names, such as the keys and the dialect, is always kept.

Where PC goes is told by the opcode as well (`Cpu.nextPlace`).
-/

namespace Chip8.Cpu

variable {δ : Type}

/-! ## Parts -/

/-- A part of a machine. -/
inductive Part where
  /-- The byte at an address. -/
  | byte (address : Nat)
  /-- Every pixel. -/
  | plane
  /-- The return addresses and how many there are. -/
  | calls
  /-- I. -/
  | index
  /-- A V register. -/
  | register (x : UInt8)
  | delay
  | sound
  | keypad
  | dialect
  | timerBound
  | program
  /-- The source of random bytes. -/
  | random
deriving DecidableEq

/-- A part of one machine is the same in another, so many ticks of the timers later. -/
def Kept (ticks : Nat) (c c' : Cpu δ) : Part → Prop
  | .byte a => c'.store.memory.cells[a]? = c.store.memory.cells[a]?
  | .plane => c'.display = c.display
  | .calls => c'.store.registers.stack = c.store.registers.stack
  | .index => c'.store.registers.i = c.store.registers.i
  | .register x => c'.store.value x = c.store.value x
  | .delay => c'.delay = c.delay - ticks
  | .sound => c'.sound = c.sound - ticks
  | .keypad => c'.keypad = c.keypad
  | .dialect => c'.dialect = c.dialect
  | .timerBound => c'.store.timerBound = c.store.timerBound
  | .program => c'.store.program = c.store.program
  | .random => c'.random = c.random

/-- The parts that an opcode names. -/
def writes (c : Cpu δ) : Opcode → List Part
  | .ret | .call _ => [.calls]
  | .jump _ | .skipIfByte _ _ | .skipUnlessByte _ _ | .skipIfSame _ _ | .skipIfKeyUp _ => []
  | .loadByte x _ | .addByte x _ | .move x _ | .conjoin x _ | .readDelay x => [.register x]
  | .add x _ | .subtract x _ => [.register x, .register Registers.flag]
  | .shiftRight x y | .shiftLeft x y => [.register (c.shifted x y), .register Registers.flag]
  | .loadIndex _ | .addIndex _ | .loadGlyph _ => [.index]
  | .random x _ => [.register x, .random]
  | .draw _ _ _ => [.plane, .register Registers.flag]
  | .setDelay _ => [.delay]
  | .setSound _ => [.sound]
  | .storeDigits _ =>
      let base := c.store.registers.i.toNat
      match c.dialect.digits with
      | .literal => [.byte (base + 1)]
      | .canonical => [.byte base, .byte (base + 1), .byte (base + 2)]
  | .saveRegisters x =>
      (List.range (x.toNat + 1)).map fun r => .byte (c.store.registers.i.toNat + r)
  | .loadRegisters x => (List.range (x.toNat + 1)).map fun r => .register (.ofNat r)

theorem writes_tickTimers (c : Cpu δ) (op : Opcode) : c.tickTimers.writes op = c.writes op := by
  cases op <;> rfl

theorem exists_byte_of_storeDigits {c : Cpu δ} {x : UInt8} {part : Part}
    (named : part ∈ c.writes (.storeDigits x)) : ∃ a, part = .byte a := by
  rw [writes] at named
  cases layout : c.dialect.digits with
  | literal =>
      rw [layout] at named
      exact ⟨_, List.mem_singleton.mp named⟩
  | canonical =>
      rw [layout] at named
      simp only [List.mem_cons, List.not_mem_nil, or_false] at named
      obtain rfl | rfl | rfl := named
      · exact ⟨_, rfl⟩
      · exact ⟨_, rfl⟩
      · exact ⟨_, rfl⟩

/-- No opcode but a drawing names the plane. -/
theorem exists_draw_of_plane {c : Cpu δ} {op : Opcode} (named : .plane ∈ c.writes op) :
    ∃ x y rows, op = .draw x y rows := by
  cases op with
  | draw x y rows => exact ⟨x, y, rows, rfl⟩
  | storeDigits x =>
      obtain ⟨a, same⟩ := exists_byte_of_storeDigits named
      cases same
  | _ => simp [writes] at named

/-- The keys, the dialect, the bound on timer values and the program are there for the whole run. -/
def Part.Fixed (part : Part) : Prop := part ∈ [keypad, dialect, timerBound, program]

/-- No opcode names a part that is fixed. -/
theorem not_mem_writes_of_fixed {part : Part} (fixed : part.Fixed) (c : Cpu δ) (op : Opcode) :
    part ∉ c.writes op := by
  intro named
  simp only [Part.Fixed, List.mem_cons, List.not_mem_nil, or_false] at fixed
  cases op with
  | storeDigits x =>
      obtain ⟨a, rfl⟩ := exists_byte_of_storeDigits named
      simp at fixed
  | _ => rcases fixed with rfl | rfl | rfl | rfl <;> simp [writes] at named

/-! ## What is kept -/

section
variable {c d e : Cpu δ} {part : Part} {parts : List Part}

theorem kept_self (c : Cpu δ) (part : Part) : Kept 0 c c part := by
  cases part <;> rfl

theorem Kept.trans {m n : Nat} (first : Kept m c d part) (second : Kept n d e part) :
    Kept (m + n) c e part := by
  cases part with
  | delay =>
      have first : d.delay = c.delay - m := first
      have second : e.delay = d.delay - n := second
      change e.delay = c.delay - (m + n)
      rw [second, first, Nat.sub_sub]
  | sound =>
      have first : d.sound = c.sound - m := first
      have second : e.sound = d.sound - n := second
      change e.sound = c.sound - (m + n)
      rw [second, first, Nat.sub_sub]
  | _ => exact Eq.trans second first

theorem kept_tickTimers (c : Cpu δ) (part : Part) : Kept 1 c c.tickTimers part := by
  cases part with
  | delay => exact Store.toNat_countDown _
  | sound => exact Store.toNat_countDown _
  | _ => rfl

/-- PC is no part, nor is what a step counts. -/
theorem kept_withPc (c : Cpu δ) (pc : UInt16) (part : Part) :
    Kept 0 c { c with store := c.store.withPc pc } part := by
  cases part <;> rfl

theorem kept_counted (c : Cpu δ) (i : Instruction) (part : Part) :
    Kept 0 c { c with cycles := c.cycles + 1, last := some i } part := by
  cases part <;> rfl

theorem kept_put {x byte : UInt8} (hx : x.toNat < 16) (named : .register x ∈ parts)
    (apart : part ∉ parts) : Kept 0 c { c with store := c.store.put x byte } part := by
  cases part with
  | register y =>
      have other : y ≠ x := by
        rintro rfl
        exact apart named
      exact (Store.value_put _ _ hx y).trans (if_neg other)
  | _ => rfl

theorem kept_put_put {x y a b : UInt8} (hx : x.toNat < 16) (hy : y.toNat < 16)
    (first : .register x ∈ parts) (second : .register y ∈ parts) (apart : part ∉ parts) :
    Kept 0 c { c with store := (c.store.put x a).put y b } part :=
  (kept_put hx first apart).trans
    (kept_put (c := { c with store := c.store.put x a }) hy second apart)

theorem kept_setI {word : UInt16} (named : .index ∈ parts) (apart : part ∉ parts) :
    Kept 0 c { c with store := c.store.setI word } part := by
  cases part with
  | index => exact absurd named apart
  | _ => rfl

theorem kept_withDelay {byte : UInt8} (named : .delay ∈ parts) (apart : part ∉ parts) :
    Kept 0 c { c with store := { c.store with registers.delay := byte } } part := by
  cases part with
  | delay => exact absurd named apart
  | _ => rfl

theorem kept_withSound {byte : UInt8} (named : .sound ∈ parts) (apart : part ∉ parts) :
    Kept 0 c { c with store := { c.store with registers.sound := byte } } part := by
  cases part with
  | sound => exact absurd named apart
  | _ => rfl

theorem kept_withStack {stack : ReturnStack} (named : .calls ∈ parts) (apart : part ∉ parts) :
    Kept 0 c (c.withStack stack) part := by
  cases part with
  | calls => exact absurd named apart
  | _ => rfl

theorem kept_putByte {a : Nat} {byte : UInt8} (named : .byte a ∈ parts) (apart : part ∉ parts) :
    Kept 0 c { c with store := c.store.putByte a byte } part := by
  cases part with
  | byte b =>
      have other : a ≠ b := by
        rintro rfl
        exact apart named
      exact Vector.getElem?_setIfInBounds_ne other
  | _ => rfl

theorem kept_overlay {start : Nat} {bytes : List UInt8}
    (named : ∀ k < bytes.length, .byte (start + k) ∈ parts) (apart : part ∉ parts) :
    Kept 0 c
      { c with store := { c.store with memory := c.store.memory.overlay start bytes } } part := by
  cases part with
  | byte a =>
      by_cases inside : a < 4096
      · have outside : ¬ (start ≤ a ∧ a - start < bytes.length) := by
          rintro ⟨above, below⟩
          have here := named _ below
          rw [Nat.add_sub_of_le above] at here
          exact apart here
        exact (Memory.getElem?_overlay _ _ _ inside).trans (if_neg outside)
      · have there (cells : Vector UInt8 4096) : cells[a]? = none :=
          Vector.getElem?_eq_none (Nat.le_of_not_lt inside)
        exact (there _).trans (there _).symm
  | _ => rfl

theorem kept_blockAt {x : UInt8} (named : ∀ r ≤ x.toNat, .register (.ofNat r) ∈ parts)
    (apart : part ∉ parts) :
    Kept 0 c
      { c with store := { c.store with registers.v := c.store.blockAt x } } part := by
  cases part with
  | register y =>
      have above : ¬ y.toNat ≤ x.toNat := by
        intro below
        have here := named _ below
        rw [UInt8.ofNat_toNat] at here
        exact apart here
      change (c.store.blockAt x)[y.toNat]?.getD 0 = c.store.registers.v[y.toNat]?.getD 0
      by_cases hy : y.toNat < 16
      · simp [Store.blockAt, hy, above]
        rfl
      · simp [hy]
  | _ => rfl

theorem kept_going (flow : Except Fault Flow) (part : Part) :
    Kept 0 c (c.going flow).state part := kept_self c part

/-- An effect that cannot fail. -/
theorem kept_thenNext {a : Attempt Fault Store Unit} {s : Store} (effect : a = ⟨.ok (), s⟩)
    (kept : Kept 0 c { c with store := s } part) : Kept 0 c (c.thenNext a).state part := by
  rw [effect]
  exact kept

/-- An effect that fails unless it fits. -/
theorem kept_thenNext_ite {a : Attempt Fault Store Unit} {fits : Prop} [Decidable fits] {s : Store}
    {f : Fault} (effect : a = if fits then ⟨.ok (), s⟩ else ⟨.error f, c.store⟩)
    (kept : Kept 0 c { c with store := s } part) : Kept 0 c (c.thenNext a).state part := by
  rw [effect]
  split
  · exact kept
  · exact kept_self c part

/-! ## Executions -/

theorem kept_ret (named : .calls ∈ parts) (apart : part ∉ parts) :
    Kept 0 c (c.withStore c.store.returnFromCall).state part := by
  rw [Store.returnFromCall_eq]
  cases c.store.registers.stack.top? with
  | none => exact kept_self c part
  | some a =>
      dsimp only
      cases CodeAddress.check (a.toNat + 2) with
      | error f => exact kept_self c part
      | ok target => exact kept_withStack named apart

theorem kept_call (target : UInt16) (named : .calls ∈ parts) (apart : part ∉ parts) :
    Kept 0 c (c.withStore (c.store.callTo target)).state part := by
  rw [Store.callTo_eq]
  cases CodeAddress.check target.toNat with
  | error f => exact kept_self c part
  | ok t =>
      dsimp only
      obtain ⟨stack, -, done⟩ | ⟨f, -, refused, -⟩ := c.store.pushReturn_cases none
      · rw [done]
        exact kept_withStack named apart
      · rw [refused]
        exact kept_self c part

theorem kept_storeDigits {x : UInt8} (hx : x.toNat < 16)
    (apart : part ∉ c.writes (.storeDigits x)) :
    Kept 0 c (c.thenNext (c.store.storeDigits c.dialect.digits x)).state part := by
  rw [writes] at apart
  cases layout : c.dialect.digits with
  | literal =>
      rw [layout] at apart
      exact kept_thenNext_ite (Store.storeDigits_literal_eq hx) (kept_putByte (.head _) apart)
  | canonical =>
      rw [layout] at apart
      refine kept_thenNext_ite (Store.storeDigits_canonical_eq hx) (kept_overlay ?_ apart)
      intro k hk
      obtain rfl | rfl | rfl : k = 0 ∨ k = 1 ∨ k = 2 := by
        change k < 3 at hk
        omega
      · exact .head _
      · exact .tail _ (.head _)
      · exact .tail _ (.tail _ (.head _))

theorem kept_random {x mask : UInt8} (hx : x.toNat < 16) (source : .random ∈ parts)
    (named : .register x ∈ parts) (apart : part ∉ parts) :
    Kept 0 c (c.drawRandom x mask).state part := by
  have taken : Kept 0 c { c with random := c.random.next.2 } part := by
    cases part with
    | random => exact absurd source apart
    | _ => rfl
  exact taken.trans (kept_thenNext (c := { c with random := c.random.next.2 })
    (Store.setV_eq _ _ hx) (kept_put hx named apart))

variable [Display δ]

theorem kept_draw {x y rows : UInt8} (plane : .plane ∈ parts)
    (flag : .register Registers.flag ∈ parts) (apart : part ∉ parts) :
    Kept 0 c (c.draw x y rows).state part := by
  have drawn (display : δ) : Kept 0 c { c with display } part := by
    cases part with
    | plane => exact absurd plane apart
    | _ => rfl
  rw [draw]
  cases c.spriteDots x y rows with
  | error e => exact kept_self c part
  | ok dots =>
      dsimp only
      generalize Display.blit c.dialect.collision c.display false dots = left
      obtain ⟨result, display⟩ := left
      cases result with
      | error f => exact drawn display
      | ok hit =>
          refine (drawn display).trans (kept_thenNext (c := { c with display })
            (Store.setV_eq _ _ Store.flag_lt) (kept_put Store.flag_lt flag apart))

/-- An execution keeps what its opcode does not name, whatever comes of it. -/
theorem kept_execute {op : Opcode} (inRange : op.InRange) (apart : part ∉ c.writes op) :
    Kept 0 c (c.execute op).state part := by
  cases op with
  | ret => exact kept_ret (.head _) apart
  | jump target => exact kept_going _ part
  | call target => exact kept_call target (.head _) apart
  | skipIfByte x byte => exact kept_going _ part
  | skipUnlessByte x byte => exact kept_going _ part
  | skipIfSame x y => exact kept_going _ part
  | skipIfKeyUp x => exact kept_going _ part
  | loadByte x byte =>
      exact kept_thenNext (Store.setV_eq _ _ inRange) (kept_put inRange (.head _) apart)
  | addByte x byte =>
      exact kept_thenNext (Store.addV_eq inRange _) (kept_put inRange (.head _) apart)
  | move x y =>
      exact kept_thenNext (Store.move_eq inRange.1 inRange.2) (kept_put inRange.1 (.head _) apart)
  | conjoin x y =>
      exact kept_thenNext (Store.conjoin_eq inRange.1 inRange.2)
        (kept_put inRange.1 (.head _) apart)
  | add x y =>
      exact kept_thenNext (Store.addRegisters_eq inRange.1 inRange.2)
        (kept_put_put inRange.1 Store.flag_lt (.head _) (.tail _ (.head _)) apart)
  | subtract x y =>
      exact kept_thenNext (Store.subtract_eq inRange.1 inRange.2)
        (kept_put_put Store.flag_lt inRange.1 (.tail _ (.head _)) (.head _) apart)
  | shiftRight x y =>
      have there := shifted_lt c inRange.1 inRange.2
      exact kept_thenNext (Store.shiftRight_eq there)
        (kept_put_put Store.flag_lt there (.tail _ (.head _)) (.head _) apart)
  | shiftLeft x y =>
      have there := shifted_lt c inRange.1 inRange.2
      exact kept_thenNext (Store.shiftLeft_eq there)
        (kept_put_put Store.flag_lt there (.tail _ (.head _)) (.head _) apart)
  | loadIndex address => exact kept_thenNext rfl (kept_setI (.head _) apart)
  | addIndex x => exact kept_thenNext (Store.addIndex_eq inRange) (kept_setI (.head _) apart)
  | loadGlyph x => exact kept_thenNext (Store.loadGlyph_eq inRange) (kept_setI (.head _) apart)
  | random x mask => exact kept_random inRange (.tail _ (.head _)) (.head _) apart
  | draw x y rows => exact kept_draw (.head _) (.tail _ (.head _)) apart
  | readDelay x =>
      exact kept_thenNext (Store.readDelay_eq inRange) (kept_put inRange (.head _) apart)
  | setDelay x =>
      rw [execute_setDelay c inRange]
      exact kept_thenNext_ite (Store.setDelay_eq _ _) (kept_withDelay (.head _) apart)
  | setSound x =>
      rw [execute_setSound c inRange]
      exact kept_thenNext_ite (Store.setSound_eq _ _) (kept_withSound (.head _) apart)
  | storeDigits x => exact kept_storeDigits inRange apart
  | saveRegisters x =>
      refine kept_thenNext_ite (Store.saveRegisters_eq inRange) (kept_overlay ?_ apart)
      intro k hk
      have upTo : k < x.toNat + 1 := by
        simp only [Store.block, List.length_take] at hk
        omega
      exact List.mem_map_of_mem (List.mem_range.mpr upTo)
  | loadRegisters x =>
      refine kept_thenNext_ite (Store.loadRegisters_eq inRange) (kept_blockAt ?_ apart)
      intro r hr
      exact List.mem_map_of_mem (List.mem_range.mpr (Nat.lt_succ_of_le hr))

end

/-! ## Where PC goes -/

/-- Whether the condition of a skip holds. -/
def skips (c : Cpu δ) : Opcode → Bool
  | .skipIfByte x byte => c.store.value x == byte
  | .skipUnlessByte x byte => c.store.value x != byte
  | .skipIfSame x y => c.store.value x == c.store.value y
  | .skipIfKeyUp x => c.keypad.down[(c.store.value x).toNat]? == some false
  | _ => false

/-- The place that an opcode leads to, if there is one. -/
def nextPlace (c : Cpu δ) : Opcode → Option Nat
  | .ret => c.frames.getLast?.map (·.toNat + 2)
  | .jump target | .call target => some target.toNat
  | op => some (c.store.registers.pc.toNat + if c.skips op then 4 else 2)

theorem nextPlace_of_falls {c : Cpu δ} {op : Opcode} (falls : op.branches = false) :
    c.nextPlace op = some (c.store.registers.pc.toNat + if c.skips op then 4 else 2) := by
  cases op with
  | ret => cases falls
  | jump target => cases falls
  | call target => cases falls
  | _ => rfl

theorem skips_tickTimers (c : Cpu δ) (op : Opcode) : c.tickTimers.skips op = c.skips op := by
  cases op <;> rfl

section
variable {c : Cpu δ} {flow : Flow}

theorem flow_thenNext {a : Attempt Fault Store Unit} (done : (c.thenNext a).result = .ok flow) :
    flow = .next := by
  obtain ⟨result, s⟩ := a
  cases result with
  | error f => cases done
  | ok u => exact (Except.ok.inj done).symm

theorem flow_skipping {e : Except Fault Bool} {condition : Bool} (effect : e = .ok condition)
    (done : (c.skipping e).result = .ok flow) : flow = .skipWhen condition := by
  rw [effect] at done
  exact (Except.ok.inj done).symm

theorem flow_keyUp {x : UInt8} (hx : x.toNat < 16)
    (done : (c.skipping (do return !(← c.keypad.isPressed (← c.store.getV x)))).result = .ok flow) :
    flow = .skipWhen (c.keypad.down[(c.store.value x).toNat]? == some false) := by
  rw [Store.getV_eq _ hx, Store.ok_bind, Keypad.isPressed] at done
  split at done
  next key =>
    rw [Vector.getElem?_eq_getElem key]
    have flow := (Except.ok.inj done).symm
    rw [flow]
    cases c.keypad.down[(c.store.value x).toNat] <;> rfl
  next => cases done

variable [Display δ]

theorem flow_draw {x y rows : UInt8} (done : (c.draw x y rows).result = .ok flow) :
    flow = .next := by
  rw [draw] at done
  cases dots : c.spriteDots x y rows with
  | error e =>
      rw [dots] at done
      cases done
  | ok dots' =>
      rw [dots] at done
      dsimp only at done
      split at done
      next => cases done
      next => exact flow_thenNext done

/-- An opcode that does not branch goes on to the next instruction, or past it when the condition of
a skip holds. -/
theorem flow_execute {op : Opcode} (inRange : op.InRange) (falls : op.branches = false)
    (done : (c.execute op).result = .ok flow) : flow = .skipWhen (c.skips op) := by
  cases op with
  | ret => cases falls
  | jump target => cases falls
  | call target => cases falls
  | skipIfByte x byte =>
      refine flow_skipping ?_ done
      rw [Store.getV_eq _ inRange]
      rfl
  | skipUnlessByte x byte =>
      refine flow_skipping ?_ done
      rw [Store.getV_eq _ inRange]
      rfl
  | skipIfSame x y =>
      refine flow_skipping ?_ done
      rw [Store.getV_eq _ inRange.1, Store.getV_eq _ inRange.2]
      rfl
  | skipIfKeyUp x => exact flow_keyUp inRange done
  | random x mask => exact flow_thenNext done
  | draw x y rows => exact flow_draw done
  | _ => exact flow_thenNext done

end

theorem pc_of_follow {s t : Store} {taken : Bool} (followed : s.follow (.skipWhen taken) = ⟨.ok (), t⟩) :
    t.registers.pc.toNat = s.registers.pc.toNat + if taken then 4 else 2 := by
  cases taken with
  | false =>
      obtain ⟨pc, same, -, rfl⟩ := Store.jump_ok followed
      change pc.toNat = s.registers.pc.toNat + 2
      omega
  | true =>
      obtain ⟨pc, same, -, rfl⟩ := Store.jump_ok followed
      change pc.toNat = s.registers.pc.toNat + 4
      omega

theorem pc_of_jump {s t : Store} {target : UInt16} (followed : s.follow (.jump target) = ⟨.ok (), t⟩) :
    t.registers.pc.toNat = target.toNat := by
  obtain ⟨pc, same, -, rfl⟩ := Store.jump_ok followed
  exact Int.ofNat_inj.mp same.symm

variable [Display δ] {c : Cpu δ} {op : Opcode} {part : Part}

/-- A successful step leads where its opcode tells. -/
theorem nextPlace_of_ok (ok : c.step.result = .ok op) :
    c.nextPlace op = some c.step.state.store.registers.pc.toNat := by
  obtain ⟨i, flow, done, store, ran⟩ := exists_of_step_ok ok
  have execution := ran.execution
  have followed := ran.followed
  rw [ran.state]
  change _ = some store.registers.pc.toNat
  have falling (falls : op.branches = false) (pc : done.store.registers.pc = c.store.registers.pc) :
      c.nextPlace op = some store.registers.pc.toNat := by
    have flow := flow_execute ran.ready.inRange falls (congrArg Attempt.result ran.executed)
    rw [flow, skips_tickTimers] at followed
    rw [nextPlace_of_falls falls, pc_of_follow followed, pc]
  cases execution with
  | next falls keeps => exact falling falls keeps.pc
  | skip falls => exact falling falls rfl
  | jump jumps =>
      subst jumps
      exact congrArg some (pc_of_jump followed).symm
  | call calls =>
      subst calls
      exact congrArg some (pc_of_jump followed).symm
  | @ret a target returns top after =>
      subst returns
      have top : c.frames.getLast? = some a := (ReturnStack.getLast?_frames _).trans top
      rw [nextPlace, top, pc_of_jump followed, after]
      rfl

/-! ## Attempts -/

/-- An attempt touches a part when its opcode names it and the step succeeds.  A drawing touches the
plane also when it fails, since a display may break in the middle of a sprite. -/
inductive Touches (c : Cpu δ) (part : Part) : Prop where
  | done {op : Opcode} (ok : c.step.result = .ok op) (named : part ∈ c.writes op)
  | drawn {i : Instruction} {x y rows : UInt8} (ready : Ready c i (.draw x y rows))
      (plane : part = .plane)

theorem not_touches_of_ready {i : Instruction} (ready : Ready c i op)
    (apart : part ∉ c.writes op) : ¬ c.Touches part := by
  intro touches
  cases touches with
  | done ok named =>
      obtain rfl := answer_of_ready ready ok
      exact apart named
  | drawn drawing plane =>
      obtain rfl := Except.ok.inj (ready.fetched.symm.trans drawing.fetched)
      obtain rfl := Option.some.inj (ready.decoded.symm.trans drawing.decoded)
      subst plane
      exact apart (.head _)

theorem not_touches_of_fixed (fixed : part.Fixed) : ¬ c.Touches part := by
  intro touches
  cases touches with
  | done ok named => exact not_mem_writes_of_fixed fixed c _ named
  | drawn drawing plane =>
      subst plane
      simp [Part.Fixed] at fixed

theorem kept_executeAndMove (c : Cpu δ) (op : Opcode) (part : Part) :
    Kept 0 (c.execute op).state (c.executeAndMove op).state part := by
  cases done : (c.execute op).result with
  | error e =>
      rw [executeAndMove_of_error done]
      exact kept_self _ part
  | ok flow =>
      obtain ⟨pc, -, moved⟩ | ⟨f, -, moved⟩ := executeAndMove_cases done
      · rw [moved]
        exact kept_withPc _ pc part
      · rw [moved]
        exact kept_self _ part

theorem kept_runDecoded {i : Instruction} (ready : Ready c i op) (part : Part) :
    Kept 0 (c.tickTimers.executeAndMove op).state c.step.state part := by
  rw [step_of_decoded ready.fetched ready.decoded, runDecoded_eq, ready.placed]
  dsimp only [Attempt.andThen]
  cases (c.tickTimers.executeAndMove op).result with
  | error e => exact kept_self _ part
  | ok u => exact kept_counted _ i part

/-- An attempt that passes the checks keeps what its opcode does not name. -/
theorem kept_of_ready {i : Instruction} (ready : Ready c i op) (apart : part ∉ c.writes op) :
    Kept 1 c c.step.state part := by
  rw [← writes_tickTimers] at apart
  have executed := (kept_tickTimers c part).trans (kept_execute ready.inRange apart)
  exact (executed.trans (kept_executeAndMove _ op part)).trans (kept_runDecoded ready part)

/-- A failed attempt keeps all but the plane, whatever its opcode names. -/
theorem kept_of_failed {i : Instruction} {e : Stop} (ready : Ready c i op)
    (failed : c.step.result = .error e) (apart : part ≠ .plane) :
    Kept 1 c c.step.state part := by
  obtain ⟨result, -, -⟩ := step_of_ready ready
  rw [failed] at result
  cases moved : (c.tickTimers.executeAndMove op).result with
  | ok u =>
      rw [moved] at result
      cases result
  | error stop =>
      have execution := executed_of_failed_move (c := c.tickTimers) ready.inRange ready.placed moved
      have left : Kept 0 c.tickTimers (c.tickTimers.executeAndMove op).state part := by
        generalize (c.tickTimers.executeAndMove op).state = state at execution
        cases execution with
        | failed => exact kept_self _ part
        | broken =>
            cases part with
            | plane => exact absurd rfl apart
            | _ => rfl
      exact ((kept_tickTimers c part).trans left).trans (kept_runDecoded ready part)

/-- An attempt keeps every part that it does not touch. -/
theorem kept_step (untouched : ¬ c.Touches part) : Kept c.passing c c.step.state part := by
  cases passes : c.passes with
  | false =>
      have unchanged := ((stepped c).of_not_passes passes).2
      rw [unchanged, passing, passes]
      exact kept_self c part
  | true =>
      obtain ⟨i, op, ready⟩ := passes_iff.mp passes
      rw [passing, if_pos passes]
      by_cases named : part ∈ c.writes op
      · cases result : c.step.result with
        | ok answer =>
            obtain rfl := answer_of_ready ready result
            exact absurd (.done result named) untouched
        | error e =>
            refine kept_of_failed ready result ?_
            rintro rfl
            obtain ⟨x, y, rows, rfl⟩ := exists_draw_of_plane named
            exact untouched (.drawn ready rfl)
      · exact kept_of_ready ready named

/-- How many of the first attempts pass the checks before the tick. -/
def ticks (c : Cpu δ) (n : Nat) : Nat := (List.range n).countP fun k => (c.after k).passes

theorem ticks_succ (c : Cpu δ) (n : Nat) : c.ticks (n + 1) = c.ticks n + (c.after n).passing := by
  rw [ticks, List.range_succ, List.countP_append, List.countP_singleton]
  rfl

/-- A part that no attempt touches is kept. -/
theorem kept_after {n : Nat} (untouched : ∀ k < n, ¬ (c.after k).Touches part) :
    Kept (c.ticks n) c (c.after n) part := by
  induction n with
  | zero => exact kept_self c part
  | succ n ih =>
      have before := ih fun k hk => untouched k (Nat.lt_succ_of_lt hk)
      rw [ticks_succ, after_succ]
      exact before.trans (kept_step (untouched n (Nat.lt_succ_self n)))

theorem ticks_of_runs {n : Nat} (runs : c.Runs n) : c.ticks n = n := by
  have all : ∀ k ∈ List.range n, (c.after k).passes = true := by
    intro k hk
    obtain ⟨op, ok⟩ := runs k (List.mem_range.mp hk)
    obtain ⟨i, flow, done, store, ran⟩ := exists_of_step_ok ok
    exact passes_iff.mpr ⟨i, op, ran.ready⟩
  rw [ticks, List.countP_eq_length.mpr all, List.length_range]

/-- A successful step changes only what its opcode names and goes where its opcode leads.  Some
parts are fixed, and no opcode names them.  So over any number of attempts what is never touched is
as it was, and of the timers only as many ticks are gone as there were attempts that passed the
checks, which is every one that succeeded. -/
theorem writes_confined (c : Cpu δ) :
    (∀ op, c.step.result = .ok op →
      (∀ part, part ∉ c.writes op → Kept 1 c c.step.state part) ∧
        c.nextPlace op = some c.step.state.store.registers.pc.toNat) ∧
      (∀ n part, Part.Fixed part → Kept (c.ticks n) c (c.after n) part) ∧
      ∀ n, (∀ part, (∀ k < n, ¬ (c.after k).Touches part) → Kept (c.ticks n) c (c.after n) part) ∧
        (c.Runs n → c.ticks n = n) := by
  refine ⟨fun op ok => ⟨fun part apart => ?_, nextPlace_of_ok ok⟩,
    fun n part fixed => kept_after fun k hk => not_touches_of_fixed fixed,
    fun n => ⟨fun part => kept_after, ticks_of_runs⟩⟩
  obtain ⟨i, flow, done, store, ran⟩ := exists_of_step_ok ok
  exact kept_of_ready ran.ready apart

/-- Loads 7 into V0 and writes its digits, all of them to the byte after I. -/
def sevenDigits : Cpu FrameBuffer :=
  .new ⟨.image [0x60, 0x07, 0xF0, 0x33], .initial, [0x60, 0x07, 0xF0, 0x33], .below255⟩
    (.blank 64 32) 0

theorem ready_sevenDigits : Ready sevenDigits ⟨0x60, 0x07⟩ (.loadByte 0 7) where
  fetched := Store.instruction_of_image (k := 0) rfl rfl rfl rfl (by decide)
  decoded := rfl
  placed := rfl

theorem step_sevenDigits :
    sevenDigits.step.toAttempt = sevenDigits.runDecoded ⟨0x60, 0x07⟩ (.loadByte 0 7) :=
  step_of_decoded ready_sevenDigits.fetched ready_sevenDigits.decoded

theorem ready_after_sevenDigits :
    Ready (sevenDigits.after 1) ⟨0xF0, 0x33⟩ (.storeDigits 0) := by
  rw [show sevenDigits.after 1 = _ from congrArg Attempt.state step_sevenDigits]
  exact ⟨Store.instruction_of_image (k := 2) rfl rfl rfl rfl (by decide), rfl, rfl⟩

theorem runs_sevenDigits : sevenDigits.Runs 2 := by
  have first : sevenDigits.step.result = .ok (.loadByte 0 7) :=
    congrArg Attempt.result step_sevenDigits
  have second : (sevenDigits.after 1).step.result = .ok (.storeDigits 0) := by
    have ready := ready_after_sevenDigits
    rw [show (sevenDigits.after 1).step.result = _ from
        congrArg Attempt.result (step_of_decoded ready.fetched ready.decoded),
      show sevenDigits.after 1 = _ from congrArg Attempt.state step_sevenDigits]
    rfl
  exact runs_add_iff.mpr ⟨runs_one_iff.mpr ⟨_, first⟩, runs_one_iff.mpr ⟨_, second⟩⟩

/-- The byte at I keeps its value, and the first step changes no register but V0. -/
theorem digits_beside_first_byte :
    (Kept 1 sevenDigits sevenDigits.step.state (.register 0xF) ∧
        sevenDigits.step.state.store.registers.pc.toNat = 0x202) ∧
      Kept 2 sevenDigits (sevenDigits.after 2) (.byte 0) := by
  have loaded : sevenDigits.step.result = .ok (.loadByte 0 7) :=
    congrArg Attempt.result step_sevenDigits
  obtain ⟨steps, -, runs⟩ := writes_confined sevenDigits
  obtain ⟨kept, place⟩ := steps _ loaded
  obtain ⟨untouched, ticks⟩ := runs 2
  have digits : (sevenDigits.after 1).writes (.storeDigits 0) = [.byte 1] := by
    rw [show sevenDigits.after 1 = _ from congrArg Attempt.state step_sevenDigits]
    rfl
  have there : sevenDigits.nextPlace (.loadByte 0 7) = some 0x202 := rfl
  rw [there] at place
  have beside : ∀ k < 2, ¬ (sevenDigits.after k).Touches (.byte 0) := by
    intro k hk
    obtain rfl | rfl : k = 0 ∨ k = 1 := by omega
    · exact not_touches_of_ready ready_sevenDigits (by decide)
    · refine not_touches_of_ready ready_after_sevenDigits ?_
      rw [digits]
      decide
  have first := untouched _ beside
  rw [ticks runs_sevenDigits] at first
  exact ⟨⟨kept _ (by decide), (Option.some.inj place).symm⟩, first⟩

end Chip8.Cpu
