import Chip8.Proofs.Store.Operations

/-!
# Sound stores

A store is sound when PC and every return address are places where an instruction
can stand.  A new store is sound, and no operation of any caller makes it unsound
(`Sound.perform`), since PC moves and addresses are pushed only through the one
check.

In a sound store there always is an instruction at PC (`Sound.instruction`).
-/

namespace Chip8

namespace ReturnStack

theorem push_valid {s t : ReturnStack} {a : UInt16} (pushed : s.push a = ⟨.ok (), t⟩) :
    CodeAddress.Valid a.toNat := by
  unfold push at pushed
  split at pushed
  next =>
    rw [CodeAddress.check_natCast] at pushed
    split at pushed
    next failed =>
      cases pushed
    next checked =>
      split at checked
      next valid => exact valid
      next => cases checked
  next => cases pushed

theorem length_frames_le (s : ReturnStack) : s.frames.length ≤ 16 := by
  rw [length_frames]
  exact Nat.le_of_lt_succ s.depth.isLt

theorem frames_drop_subset (s : ReturnStack) : s.drop.frames ⊆ s.frames := by
  change List.take (s.depth.val - 1) _ ⊆ List.take s.depth.val _
  exact (List.take_prefix_take_left (Nat.sub_le _ _)).subset

theorem frames_drop {s : ReturnStack} {a : UInt16} (top : s.top? = some a) :
    s.frames = s.drop.frames ++ [a] := by
  apply frames_pop
  rw [pop, top]

theorem getLast?_frames (s : ReturnStack) : s.frames.getLast? = s.top? := by
  have := s.depth.isLt
  rw [frames, List.getLast?_take, top?]
  by_cases empty : s.depth.val = 0
  · simp [empty]
  · have inside : s.depth.val - 1 < 16 := by omega
    simp [empty, inside]

/-- A place of an instruction can be pushed while there is room. -/
theorem push_of_valid (s : ReturnStack) {a : UInt16} (valid : CodeAddress.Valid a.toNat) :
    if s.frames.length = 16 then s.push a = ⟨.error .stackOverflow, s⟩
    else ∃ t, s.push a = ⟨.ok (), t⟩ := by
  have := s.depth.isLt
  rw [length_frames, push, CodeAddress.check_of_valid valid]
  by_cases room : s.depth.val < 16
  · simp [room, Nat.ne_of_lt room]
  · simp [show s.depth.val = 16 by omega]

end ReturnStack

namespace Store

variable {s t : Store}

/-! ## Accepting a program -/

theorem ofProgram?_eq_ok_iff {program : List UInt8} :
    ofProgram? program = .ok s ↔
      program.length ≤ Memory.programSpace ∧ s = ⟨.image program, .initial, program, .below255⟩ := by
  constructor
  · intro accepted
    rw [ofProgram?] at accepted
    cases checked : checkProgram program with
    | error f =>
        rw [checked] at accepted
        cases accepted
    | ok u =>
        rw [checked] at accepted
        cases accepted
        exact ⟨checkProgram_eq_ok_iff.mp checked, rfl⟩
  · rintro ⟨fits, rfl⟩
    rw [ofProgram?, checkProgram_eq_ok_iff.mpr fits]
    rfl

/-! ## Soundness -/

/-- PC and every return address are places where an instruction can stand. -/
structure Sound (s : Store) : Prop where
  pc : CodeAddress.Valid s.registers.pc.toNat
  frames : ∀ a ∈ s.registers.stack.frames, CodeAddress.Valid a.toNat

namespace Sound

/-! ## What keeps a store sound -/

theorem of_same (sound : s.Sound) (pc : t.registers.pc = s.registers.pc)
    (stack : t.registers.stack = s.registers.stack) : t.Sound where
  pc := by
    rw [pc]
    exact sound.pc
  frames := by
    rw [stack]
    exact sound.frames

theorem withPc (sound : s.Sound) {pc : UInt16} (valid : CodeAddress.Valid pc.toNat) :
    (s.withPc pc).Sound :=
  ⟨valid, sound.frames⟩

theorem push (sound : s.Sound) {a : UInt16} {stack : ReturnStack}
    (pushed : s.registers.stack.push a = ⟨.ok (), stack⟩) :
    Sound { s with registers.stack := stack } where
  pc := sound.pc
  frames := by
    intro b membership
    rw [show stack.frames = _ from ReturnStack.frames_push pushed] at membership
    rcases List.mem_append.mp membership with old | new
    · exact sound.frames b old
    · obtain rfl := List.mem_singleton.mp new
      exact ReturnStack.push_valid pushed

theorem drop (sound : s.Sound) :
    Sound { s with registers.stack := s.registers.stack.drop } where
  pc := sound.pc
  frames := fun a membership => sound.frames a (ReturnStack.frames_drop_subset _ membership)

/-- Every store whose registers are the initial ones is sound. -/
theorem of_initial (initial : s.registers = .initial) : s.Sound where
  pc := by
    rw [initial]
    decide
  frames := by
    rw [initial]
    intro a membership
    rw [show Registers.initial.stack.frames = [] from ReturnStack.frames_empty] at membership
    cases membership

theorem ofProgram? {program : List UInt8} (loaded : Store.ofProgram? program = .ok s) :
    s.Sound := by
  obtain ⟨-, rfl⟩ := ofProgram?_eq_ok_iff.mp loaded
  exact of_initial rfl

/-! ## Operations -/

theorem tickTimers (sound : s.Sound) : s.tickTimers.Sound := sound.of_same rfl rfl

theorem setTimerBound (sound : s.Sound) (bound : TimerBound) : (s.setTimerBound bound).Sound :=
  sound.of_same rfl rfl

theorem changed (sound : s.Sound) (changed : s.Changed t) : t.Sound := by
  cases changed with
  | pushed pushed => exact sound.push pushed
  | popped => exact sound.drop
  | moved valid => exact sound.withPc valid
  | reset => exact of_initial rfl
  | _ => exact sound.of_same rfl rfl

/-- No operation makes a store unsound, whatever comes of it. -/
theorem perform (sound : s.Sound) (op : Operation) : (s.perform op).state.Sound := by
  have left := s.operated op
  generalize (s.perform op).toAttempt = a at left
  cases left with
  | failed => exact sound
  | told => exact sound
  | changed _ changed => exact sound.changed changed
  | loaded => exact of_initial rfl

theorem performAll (sound : s.Sound) (ops : List Operation) : (s.performAll ops).Sound := by
  induction ops generalizing s with
  | nil => exact sound
  | cons op ops ih => exact ih (sound.perform op)

/-! ## Fetching -/

/-- A sound store has an instruction at PC. -/
theorem instruction (sound : s.Sound) : ∃ i, s.instruction = .ok i := by
  obtain ⟨inside, even⟩ := sound.pc
  have hlow : s.registers.pc.toNat + 1 < 4096 := by omega
  rw [Store.instruction, Memory.read_of_lt _ inside, Memory.read_of_lt _ hlow]
  exact ⟨_, rfl⟩

end Sound

theorem instruction_of_reads {pc : Nat} {high low : UInt8} (here : s.registers.pc.toNat = pc)
    (first : s.readByte pc = .ok high) (second : s.readByte (pc + 1) = .ok low) :
    s.instruction = .ok ⟨high, low⟩ := by
  rw [readByte] at first second
  rw [instruction, here, first, second]
  rfl

/-- The instructions of a program that was not written over. -/
theorem instruction_of_image {program : List UInt8} {k : Nat} {high low : UInt8}
    (image : s.memory = .image program) (pc : s.registers.pc.toNat = Memory.entryPoint + k)
    (first : program[k]? = some high) (second : program[k + 1]? = some low)
    (fits : program.length ≤ Memory.programSpace) : s.instruction = .ok ⟨high, low⟩ := by
  apply instruction_of_reads pc
  · rw [readByte, image, Memory.read_image first fits]
  · rw [readByte, image, Nat.add_assoc, Memory.read_image second fits]

end Store

end Chip8
