import Chip8.Proofs.Store.Soundness

/-!
# Resetting a store

What a reset writes back is the program that was accepted last: the one the store
was made of, or the last one loaded since that fits (`lastLoaded`).  A load that is
rejected does not count.  `program_performAll` finds that program in the store after
every history, whatever was written to memory meanwhile.

A reset is therefore the store of that program made anew, but for the bound on timer
values, which it keeps (`resetsTo_of_program`).  The memory of such a store is laid
out as `Memory.Fresh` says.
-/

namespace Chip8

namespace Memory

/-! ## The memory of a new store -/

/-- The font at its place, a program at the entry point, and zero everywhere else. -/
structure Fresh (m : Memory) (program : List UInt8) : Prop where
  glyphs : ∀ a < 0x50, m.cells[a]? = font[a]?
  loaded : ∀ k < program.length, m.cells[0x200 + k]? = program[k]?
  gap : ∀ a < 0x200, 0x50 ≤ a → m.cells[a]? = some 0
  rest : ∀ a < size, 0x200 + program.length ≤ a → m.cells[a]? = some 0

theorem getElem?_zero {a : Nat} (inside : a < size) : zero.cells[a]? = some 0 := by
  simp [zero, inside]

/-- What an address holds in the memory a program that fits starts with. -/
theorem getElem?_image {program : List UInt8} (fits : program.length ≤ programSpace) {a : Nat}
    (inside : a < size) :
    (image program).cells[a]? =
      if 0x200 ≤ a ∧ a - 0x200 < program.length then program[a - 0x200]?
      else if a < 0x50 then font[a]? else some 0 := by
  have glyphs : fontBase.toNat ≤ a ∧ a - fontBase.toNat < font.length ↔ a < 0x50 :=
    and_iff_right (Nat.zero_le a)
  rw [image_of_fits fits, getElem?_overlay _ _ _ inside, withFont, getElem?_overlay _ _ _ inside,
    getElem?_zero inside]
  simp only [glyphs]
  rfl

theorem fresh_image {program : List UInt8} (fits : program.length ≤ programSpace) :
    (image program).Fresh program := by
  have space : 0x200 + program.length ≤ size := Nat.add_le_of_le_sub' (by decide) fits
  constructor
  case glyphs =>
    intro a ha
    rw [getElem?_image fits (by omega), if_neg (by omega), if_pos ha]
  case loaded =>
    intro k hk
    rw [getElem?_image fits (by omega), Nat.add_sub_cancel_left, if_pos (by omega)]
  case gap =>
    intro a ha above
    rw [getElem?_image fits (by omega), if_neg (by omega), if_neg (by omega)]
  case rest =>
    intro a ha above
    rw [getElem?_image fits ha, if_neg (by omega), if_neg (by omega)]

end Memory

namespace Store

/-! ## The program accepted last -/

/-- The last program that some operations loaded, or the one that was there before them. -/
def lastLoaded (program : List UInt8) (ops : List Operation) : List UInt8 :=
  (ops.filterMap Operation.accepted?).getLast?.getD program

theorem lastLoaded_cons (program : List UInt8) (op : Operation) (ops : List Operation) :
    lastLoaded program (op :: ops) = lastLoaded (op.accepted?.getD program) ops := by
  cases accepted : op.accepted? with
  | none => simp [lastLoaded, accepted]
  | some p => simp [lastLoaded, accepted, List.getLast?_cons]

theorem fits_lastLoaded {program : List UInt8} (fits : program.length ≤ Memory.programSpace)
    (ops : List Operation) : (lastLoaded program ops).length ≤ Memory.programSpace := by
  induction ops generalizing program with
  | nil => exact fits
  | cons op ops ih =>
      rw [lastLoaded_cons]
      apply ih
      cases accepted : op.accepted? with
      | none => exact fits
      | some p => exact op.fits_of_accepted? accepted

variable {s : Store}

theorem Changed.program {t : Store} (changed : s.Changed t) : t.program = s.program := by
  cases changed <;> rfl

/-- The program after an operation is the one it loaded, if it loaded one. -/
theorem program_perform (s : Store) (op : Operation) :
    (s.perform op).state.program = op.accepted?.getD s.program := by
  have left := s.operated op
  generalize (s.perform op).toAttempt = a at left
  cases left with
  | failed kept => rw [kept, Option.getD_none]
  | told kept => rw [kept, Option.getD_none]
  | changed kept changed => rw [kept, Option.getD_none, changed.program]
  | loaded accepted =>
      rw [accepted]
      rfl

/-- The program after a history is the last one it loaded. -/
theorem program_performAll (s : Store) (ops : List Operation) :
    (s.performAll ops).program = lastLoaded s.program ops := by
  induction ops generalizing s with
  | nil => rfl
  | cons op ops ih => rw [performAll_cons, ih, program_perform, lastLoaded_cons]

section
variable {program : List UInt8} {loaded : Store} (accepted : ofProgram? program = .ok loaded)
  (ops : List Operation)

include accepted in
theorem program_of_history : (loaded.performAll ops).program = lastLoaded program ops := by
  obtain ⟨-, rfl⟩ := ofProgram?_eq_ok_iff.mp accepted
  exact program_performAll _ ops

include accepted in
/-- There is a new store of the program accepted last. -/
theorem ofProgram?_lastLoaded :
    ∃ fresh, ofProgram? (lastLoaded program ops) = .ok fresh ∧
      fresh.memory.Fresh (lastLoaded program ops) := by
  obtain ⟨fits, -⟩ := ofProgram?_eq_ok_iff.mp accepted
  have still := fits_lastLoaded fits ops
  exact ⟨_, ofProgram?_eq_ok_iff.mpr ⟨still, rfl⟩, Memory.fresh_image still⟩

end

/-! ## Resetting -/

/-- A reset is done, and leaves some other store with the bound on timer values that was set. -/
structure ResetsTo (s fresh : Store) : Prop where
  result : (s.perform .reset).result = .ok .done
  state : (s.perform .reset).state = fresh.setTimerBound s.timerBound

/-- A reset leaves the store of its program, made anew. -/
theorem resetsTo_of_program {fresh : Store} (made : ofProgram? s.program = .ok fresh) :
    s.ResetsTo fresh := by
  obtain ⟨-, rfl⟩ := ofProgram?_eq_ok_iff.mp made
  exact ⟨rfl, rfl⟩

end Store

end Chip8
