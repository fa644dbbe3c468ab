import Chip8.Opcode.Encoding

/-!
# Operands of decoded instructions

A decoded opcode holds what its instruction word can hold: registers and row
counts below sixteen, addresses below 4096.  An opcode from a file may hold more,
so the bounds are a predicate (`Opcode.InRange`) and not part of the type.  The
machine only ever executes opcodes that were decoded, and `inRange_of_decode?`
gives the bounds for those.
-/

namespace Chip8

/-- Every operand fits the field that an instruction word has for it. -/
def Opcode.InRange : Opcode → Prop
  | ret => True
  | jump a | call a | loadIndex a => a.toNat < 4096
  | skipIfByte x _ | skipUnlessByte x _ | loadByte x _ | addByte x _ | random x _ => x.toNat < 16
  | skipIfSame x y | move x y | conjoin x y | add x y | subtract x y | shiftRight x y
  | shiftLeft x y => x.toNat < 16 ∧ y.toNat < 16
  | draw x y n => x.toNat < 16 ∧ y.toNat < 16 ∧ n.toNat < 16
  | addIndex x | loadGlyph x | skipIfKeyUp x | readDelay x | setDelay x | setSound x
  | storeDigits x | saveRegisters x | loadRegisters x => x.toNat < 16

namespace Instruction

theorem x_lt (i : Instruction) : i.x.toNat < 16 := by
  rw [toNat_x]
  omega

theorem y_lt (i : Instruction) : i.y.toNat < 16 := by
  have := i.low.toNat_lt
  rw [toNat_y]
  omega

theorem n_lt (i : Instruction) : i.n.toNat < 16 := by
  rw [toNat_n]
  omega

theorem address_lt (i : Instruction) : i.address.toNat < 4096 := by
  have := i.low.toNat_lt
  rw [toNat_address]
  omega

/-- Decoding takes every operand from a field of the word. -/
theorem inRange_of_decode? {i : Instruction} {op : Opcode} (decoded : i.decode? = some op) :
    op.InRange := by
  have hx := i.x_lt
  have hy := i.y_lt
  have hn := i.n_lt
  have ha := i.address_lt
  unfold decode? at decoded
  split at decoded
  case h_1 | h_6 | h_13 =>
    split at decoded
    · cases decoded
      simp [Opcode.InRange, hx, hy]
    · cases decoded
  case h_9 | h_14 => split at decoded <;> cases decoded <;> simp [Opcode.InRange, hx, hy]
  case h_15 => cases decoded
  all_goals
    cases decoded
    simp [Opcode.InRange, hx, hy, hn, ha]

end Instruction

end Chip8
