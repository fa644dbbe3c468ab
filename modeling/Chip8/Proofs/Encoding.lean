import Chip8.Proofs.Operands
import Chip8.Proofs.Store.Soundness

/-!
# Reading back what was written

Encoding and decoding are two tables, and what one says of an opcode the other has to
say of its words.  An encoded opcode decodes to itself with every operand cut to its
field (`decode?_encode`), so no opcode has a word that decodes to nothing.

A decoded word encodes to itself (`encode_of_decode?`), but for the returns.  The low
nibble of the high byte of a return is not looked at, so there are sixteen words for it,
and it is written as the one with a zero there.

An assembled program is the words of its opcodes one after the other, high bytes first
(`getElem?_assemble`), and that is how they are fetched once it is loaded.
-/

namespace Chip8

/-- The opcode with every operand cut to the field that an instruction word has for it. -/
def Opcode.cut : Opcode → Opcode
  | ret => ret
  | jump a => jump (a % 4096)
  | call a => call (a % 4096)
  | skipIfByte x b => skipIfByte (x % 16) b
  | skipUnlessByte x b => skipUnlessByte (x % 16) b
  | skipIfSame x y => skipIfSame (x % 16) (y % 16)
  | loadByte x b => loadByte (x % 16) b
  | addByte x b => addByte (x % 16) b
  | move x y => move (x % 16) (y % 16)
  | conjoin x y => conjoin (x % 16) (y % 16)
  | add x y => add (x % 16) (y % 16)
  | subtract x y => subtract (x % 16) (y % 16)
  | shiftRight x y => shiftRight (x % 16) (y % 16)
  | shiftLeft x y => shiftLeft (x % 16) (y % 16)
  | loadIndex a => loadIndex (a % 4096)
  | addIndex x => addIndex (x % 16)
  | loadGlyph x => loadGlyph (x % 16)
  | random x mask => random (x % 16) mask
  | draw x y n => draw (x % 16) (y % 16) (n % 16)
  | skipIfKeyUp x => skipIfKeyUp (x % 16)
  | readDelay x => readDelay (x % 16)
  | setDelay x => setDelay (x % 16)
  | setSound x => setSound (x % 16)
  | storeDigits x => storeDigits (x % 16)
  | saveRegisters x => saveRegisters (x % 16)
  | loadRegisters x => loadRegisters (x % 16)

namespace Instruction

/-! ## The fields of a written word -/

theorem fields_of_toNat {w : UInt16} {family x low : Nat} (hx : x < 16) (hlow : low < 256)
    (word : w.toNat = family * 4096 + x * 256 + low) :
    (ofWord w).family.toNat = family ∧ (ofWord w).x.toNat = x ∧ (ofWord w).low.toNat = low := by
  have whole := toNat_word (ofWord w)
  have bound := (ofWord w).low.toNat_lt
  rw [word_ofWord, word] at whole
  rw [toNat_family, toNat_x]
  omega

section
variable {family : UInt16} (h : family < 16)

include h

theorem fields_registerByte (x byte : UInt8) :
    (ofWord (Opcode.registerByte family x byte)).family.toNat = family.toNat ∧
      (ofWord (Opcode.registerByte family x byte)).x = x % 16 ∧
      (ofWord (Opcode.registerByte family x byte)).low = byte := by
  obtain ⟨hf, hx, hlow⟩ := fields_of_toNat (Nat.mod_lt _ (by decide)) byte.toNat_lt
    (Opcode.toNat_registerByte h x byte)
  refine ⟨hf, ?_, UInt8.toNat_inj.mp hlow⟩
  rw [← UInt8.toNat_inj, hx, UInt8.toNat_mod]
  rfl

theorem fields_registerPair (x y n : UInt8) :
    (ofWord (Opcode.registerPair family x y n)).family.toNat = family.toNat ∧
      (ofWord (Opcode.registerPair family x y n)).x = x % 16 ∧
      (ofWord (Opcode.registerPair family x y n)).y = y % 16 ∧
      (ofWord (Opcode.registerPair family x y n)).n = n % 16 := by
  have word := Opcode.toNat_registerPair h x y n
  rw [Nat.add_assoc] at word
  obtain ⟨hf, hx, hlow⟩ := fields_of_toNat (Nat.mod_lt _ (by decide)) (by omega) word
  refine ⟨hf, ?_, ?_, ?_⟩
  · rw [← UInt8.toNat_inj, hx, UInt8.toNat_mod]
    rfl
  · rw [← UInt8.toNat_inj, toNat_y, hlow, UInt8.toNat_mod]
    change _ = y.toNat % 16
    omega
  · rw [← UInt8.toNat_inj, toNat_n, hlow, UInt8.toNat_mod]
    change _ = n.toNat % 16
    omega

theorem fields_addressed (address : UInt16) :
    (ofWord (Opcode.addressed family address)).family.toNat = family.toNat ∧
      (ofWord (Opcode.addressed family address)).address = address % 4096 := by
  have word := Opcode.toNat_addressed h address
  have split : address.toNat % 4096 =
      address.toNat / 256 % 16 * 256 + address.toNat % 256 := by omega
  rw [split, ← Nat.add_assoc] at word
  obtain ⟨hf, hx, hlow⟩ :=
    fields_of_toNat (Nat.mod_lt _ (by decide)) (Nat.mod_lt _ (by decide)) word
  refine ⟨hf, ?_⟩
  rw [toNat_x] at hx
  rw [← UInt16.toNat_inj, toNat_address, hx, hlow, UInt16.toNat_mod]
  exact split.symm

end

/-- An encoded opcode decodes to itself, but for what its operands have beyond their fields. -/
theorem decode?_encode (op : Opcode) : (ofWord op.encode).decode? = some op.cut := by
  cases op with
  | ret => rfl
  | jump a | call a | loadIndex a =>
      simp [Opcode.encode, decode?, fields_addressed, Opcode.cut]
  | skipIfSame x y | move x y | conjoin x y | add x y | subtract x y | shiftRight x y
  | shiftLeft x y | draw x y n =>
      simp [Opcode.encode, decode?, fields_registerPair, Opcode.cut]
  | _ => simp [Opcode.encode, decode?, fields_registerByte, Opcode.cut]

example : (ofWord (Opcode.draw 0x21 0x35 0x1F).encode).decode? = some (.draw 1 5 15) := by decide

/-! ## The word of the fields -/

/-- The words `0x0?EE`. -/
def IsReturn (i : Instruction) : Prop := i.family = 0 ∧ i.low = 0xEE

instance (i : Instruction) : Decidable i.IsReturn := inferInstanceAs (Decidable (_ ∧ _))

section
variable {i : Instruction} {family : UInt16} (h : i.family.toNat = family.toNat)
  (other : family ≠ 0)

include h

theorem family_lt : family < 16 := by
  have high := i.high.toNat_lt
  rw [toNat_family] at h
  rw [UInt16.lt_iff_toNat_lt, ← h]
  change _ < 16
  omega

include other

theorem not_isReturn : ¬ i.IsReturn := by
  rintro ⟨zero, -⟩
  rw [zero] at h
  exact other (UInt16.toNat_inj.mp h.symm)

theorem registerByte_fields {byte : UInt8} (same : i.low = byte) :
    Opcode.registerByte family i.x byte = if i.IsReturn then 0x00EE else i.word := by
  rw [if_neg (not_isReturn h other), ← UInt16.toNat_inj, Opcode.toNat_registerByte (family_lt h),
    toNat_word, ← h, ← same, toNat_family, toNat_x]
  omega

theorem registerPair_fields {n : UInt8} (same : i.n = n) :
    Opcode.registerPair family i.x i.y n = if i.IsReturn then 0x00EE else i.word := by
  have low := i.low.toNat_lt
  rw [if_neg (not_isReturn h other), ← UInt16.toNat_inj, Opcode.toNat_registerPair (family_lt h),
    toNat_word, ← h, ← same, toNat_family, toNat_x, toNat_y, toNat_n]
  omega

theorem addressed_fields :
    Opcode.addressed family i.address = if i.IsReturn then 0x00EE else i.word := by
  have low := i.low.toNat_lt
  rw [if_neg (not_isReturn h other), ← UInt16.toNat_inj, Opcode.toNat_addressed (family_lt h),
    toNat_word, ← h, toNat_family, toNat_address]
  omega

end

theorem decode?_of_isReturn {i : Instruction} (returns : i.IsReturn) : i.decode? = some .ret := by
  obtain ⟨family, low⟩ := returns
  rw [decode?, family, if_pos low]
  rfl

/-- A decoded word encodes to itself, and a return to the first of its words. -/
theorem encode_of_decode? {i : Instruction} {op : Opcode} (decoded : i.decode? = some op) :
    op.encode = if i.IsReturn then 0x00EE else i.word := by
  unfold decode? at decoded
  split at decoded
  case h_1 family =>
    split at decoded
    next low =>
      cases decoded
      rw [if_pos ⟨UInt8.toNat_inj.mp family, low⟩]
      rfl
    next => cases decoded
  case h_2 family | h_3 family | h_10 family =>
    cases decoded
    exact addressed_fields family (by decide)
  case h_4 family | h_5 family | h_7 family | h_8 family | h_11 family =>
    cases decoded
    exact registerByte_fields family (by decide) rfl
  case h_12 family =>
    cases decoded
    exact registerPair_fields family (by decide) rfl
  case h_6 family =>
    split at decoded
    next same =>
      cases decoded
      exact registerPair_fields family (by decide) same
    next => cases decoded
  case h_9 family =>
    split at decoded
    case h_7 => cases decoded
    case h_1 same | h_2 same | h_3 same | h_4 same | h_5 same | h_6 same =>
      cases decoded
      exact registerPair_fields family (by decide) (UInt8.toNat_inj.mp same)
  case h_13 family =>
    split at decoded
    next same =>
      cases decoded
      exact registerByte_fields family (by decide) same
    next => cases decoded
  case h_14 family =>
    split at decoded
    case h_9 => cases decoded
    case h_1 same | h_2 same | h_3 same | h_4 same | h_5 same | h_6 same | h_7 same | h_8 same =>
      cases decoded
      exact registerByte_fields family (by decide) (UInt8.toNat_inj.mp same)
  case h_15 => cases decoded

end Instruction

/-! ## Programs -/

namespace Opcode

theorem assemble_cons (op : Opcode) (ops : List Opcode) :
    assemble (op :: ops) =
      (Instruction.ofWord op.encode).high :: (Instruction.ofWord op.encode).low :: assemble ops :=
  rfl

/-- The bytes of each opcode stand at twice its place. -/
theorem getElem?_assemble {ops : List Opcode} {k : Nat} {op : Opcode} (found : ops[k]? = some op) :
    (assemble ops)[2 * k]? = some (Instruction.ofWord op.encode).high ∧
      (assemble ops)[2 * k + 1]? = some (Instruction.ofWord op.encode).low := by
  induction ops generalizing k with
  | nil => cases found
  | cons first ops ih =>
      rw [assemble_cons]
      cases k with
      | zero =>
          cases found
          exact ⟨rfl, rfl⟩
      | succ k => exact ih found

/-- A loaded program has its opcodes at every other address from the entry point on. -/
theorem fetched_of_assemble {ops : List Opcode} {k : Nat} {op : Opcode} {s : Store}
    (fits : 2 * ops.length ≤ Memory.programSpace) (found : ops[k]? = some op)
    (image : s.memory = .image (assemble ops))
    (pc : s.registers.pc.toNat = Memory.entryPoint + 2 * k) :
    s.instruction = .ok (Instruction.ofWord op.encode) := by
  obtain ⟨high, low⟩ := getElem?_assemble found
  have whole : (assemble ops).length ≤ Memory.programSpace := by rwa [length_assemble]
  exact Store.instruction_of_image image pc high low whole

end Opcode

/-- What a store has of the opcodes of its program: PC can be put on each, and it is fetched and
decoded there with its operands cut to their fields. -/
def Store.Holds (s : Store) (ops : List Opcode) : Prop :=
  ∀ k op, ops[k]? = some op →
    ∃ t i, s.jump (Memory.entryPoint + 2 * k : Nat) = ⟨.ok (), t⟩ ∧ t.instruction = .ok i ∧
      i.decode? = some op.cut

theorem Store.holds_of_image {s : Store} {ops : List Opcode}
    (fits : 2 * ops.length ≤ Memory.programSpace) (image : s.memory = .image (Opcode.assemble ops)) :
    s.Holds ops := by
  intro k op found
  have inside : k < ops.length := (List.getElem?_eq_some_iff.mp found).1
  have bound : Memory.entryPoint + 2 * k < 4096 := by
    unfold Memory.programSpace Memory.entryPoint Memory.size at *
    omega
  have pc : (UInt16.ofNat (Memory.entryPoint + 2 * k)).toNat = Memory.entryPoint + 2 * k :=
    Nat.mod_eq_of_lt (Nat.lt_trans bound (show 4096 < UInt16.size by decide))
  have valid : CodeAddress.Valid (UInt16.ofNat (Memory.entryPoint + 2 * k)).toNat := by
    rw [pc]
    refine ⟨bound, ?_⟩
    unfold Memory.entryPoint
    omega
  have jumped := s.jump_of_valid valid
  rw [pc] at jumped
  refine ⟨_, _, jumped, Opcode.fetched_of_assemble fits found image ?_, ?_⟩
  · exact pc
  · exact Instruction.decode?_encode op

/-- What encoding and decoding say of a word. -/
structure WordLaws (w : UInt16) : Prop where
  /-- A decoded word is the word of its opcode, or one more word of the return. -/
  encoded : ∀ op, (Instruction.ofWord w).decode? = some op →
    op.encode = if (Instruction.ofWord w).IsReturn then 0x00EE else w
  /-- Every word of the return decodes to it. -/
  returns : (Instruction.ofWord w).IsReturn → (Instruction.ofWord w).decode? = some .ret
  /-- A word that decodes to nothing is the word of no opcode. -/
  unassigned : (Instruction.ofWord w).decode? = none → ∀ op : Opcode, op.encode ≠ w

theorem wordLaws (w : UInt16) : WordLaws w where
  encoded op decoded := by
    have written := Instruction.encode_of_decode? decoded
    rwa [Instruction.word_ofWord] at written
  returns := Instruction.decode?_of_isReturn
  unassigned undecoded op same := by
    rw [← same, Instruction.decode?_encode] at undecoded
    cases undecoded

/-- Every program that fits is loaded, fetched and decoded as it was written, and every word is
written as it was decoded. -/
theorem assembled_as_written :
    (∀ ops : List Opcode, 2 * ops.length ≤ Memory.programSpace →
      (Opcode.assemble ops).length = 2 * ops.length ∧
        ∃ s, Store.ofProgram? (Opcode.assemble ops) = .ok s ∧ s.Holds ops) ∧
      ∀ w, WordLaws w := by
  refine ⟨?_, wordLaws⟩
  intro ops fits
  have length := Opcode.length_assemble ops
  have loaded := Store.ofProgram?_eq_ok_iff.mpr ⟨Nat.le_trans (Nat.le_of_eq length) fits, rfl⟩
  exact ⟨length, _, loaded, Store.holds_of_image fits rfl⟩

/-- A program whose first two operands are wider than their fields. -/
theorem wide_operands_held :
    let ops : List Opcode := [.loadByte 0x1A 7, .call 0xF206, .ret]
    2 * ops.length ≤ Memory.programSpace ∧
      (∃ s, Store.ofProgram? [0x6A, 0x07, 0x22, 0x06, 0x00, 0xEE] = .ok s ∧ s.Holds ops) ∧
      ops.map Opcode.cut = [.loadByte 0xA 7, .call 0x206, .ret] ∧ WordLaws 0x01EE := by
  intro ops
  have fits : 2 * ops.length ≤ Memory.programSpace := by decide
  obtain ⟨assembled, words⟩ := assembled_as_written
  exact ⟨fits, (assembled ops fits).2, by decide, words _⟩

end Chip8
