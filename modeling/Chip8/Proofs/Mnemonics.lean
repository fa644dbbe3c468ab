import Chip8.Event
import Chip8.Proofs.Encoding

/-!
# Mnemonics

Twenty-six kinds of opcodes share sixteen first words, and what tells two of them apart is
the shape of an operand.  No two opcodes are written alike all the same, whatever their
operands hold, also where these are too large for an instruction word.

A mnemonic is taken apart as a reader does it.  The first word ends at the first space,
and each operand but the last at a comma (`parts_of_mnemonic`).  A text shows one operand
(`Operand.ofText_text`): a leading letter tells its kind, a byte has two digits after the
`0x` and an address at least three, and a numeral shows one number
(`Numeral.valueOf_hex`).  The first word with the operands then belongs to one opcode
(`ofParts?_parts`).

`mnemonics_unambiguous` carries this over to the words that decode, where only the words
of a return share a mnemonic.
-/

namespace Chip8

/-! ## Numerals -/

namespace Numeral

/-- The number of an upper-case hexadecimal digit. -/
def digitValue (c : Char) : Nat := if c.isDigit then c.toNat - 48 else c.toNat - 55

/-- The number of upper-case hexadecimal digits. -/
def valueOf (digits : List Char) : Nat := digits.foldl (fun n c => 16 * n + digitValue c) 0

theorem valueOf_concat (digits : List Char) (c : Char) :
    valueOf (digits ++ [c]) = 16 * valueOf digits + digitValue c := by
  rw [valueOf, List.foldl_append]
  rfl

theorem valueOf_fill (k : Nat) (digits : List Char) :
    valueOf (List.replicate k '0' ++ digits) = valueOf digits := by
  induction k with
  | zero => rfl
  | succ k ih => exact ih

theorem upperDigits_of_lt {n : Nat} (h : n < 16) : upperDigits n = [n.digitChar.toUpper] := by
  rw [upperDigits, Nat.toDigits_of_lt_base h, List.map_singleton]

theorem upperDigits_of_le {n : Nat} (h : 16 ≤ n) :
    upperDigits n = upperDigits (n / 16) ++ [(n % 16).digitChar.toUpper] := by
  rw [upperDigits, Nat.toDigits_of_base_le (by decide) h, List.map_append, List.map_singleton]
  rfl

theorem digitValue_digitChar {d : Nat} (h : d < 16) : digitValue d.digitChar.toUpper = d := by
  have table : ∀ d < 16, digitValue d.digitChar.toUpper = d := by decide
  exact table d h

theorem isAlphanum_digitChar {d : Nat} (h : d < 16) : d.digitChar.toUpper.isAlphanum := by
  have table : ∀ d < 16, d.digitChar.toUpper.isAlphanum := by decide
  exact table d h

theorem valueOf_upperDigits (n : Nat) : valueOf (upperDigits n) = n := by
  induction n using Nat.strongRecOn with
  | ind n ih =>
      by_cases small : n < 16
      · rw [upperDigits_of_lt small]
        exact (valueOf_concat [] _).trans ((Nat.zero_add _).trans (digitValue_digitChar small))
      · rw [upperDigits_of_le (Nat.not_lt.mp small), valueOf_concat, ih (n / 16) (by omega),
          digitValue_digitChar (Nat.mod_lt n (by decide)), Nat.div_add_mod]

theorem isAlphanum_of_mem_upperDigits {n : Nat} {c : Char} (among : c ∈ upperDigits n) :
    c.isAlphanum := by
  induction n using Nat.strongRecOn with
  | ind n ih =>
      by_cases small : n < 16
      · rw [upperDigits_of_lt small, List.mem_singleton] at among
        rw [among]
        exact isAlphanum_digitChar small
      · rw [upperDigits_of_le (Nat.not_lt.mp small), List.mem_append, List.mem_singleton] at among
        cases among with
        | inl before => exact ih (n / 16) (by omega) before
        | inr last =>
            rw [last]
            exact isAlphanum_digitChar (Nat.mod_lt n (by decide))

theorem toList_hex (width n : Nat) :
    (hex width n).toList =
      List.replicate (width - (upperDigits n).length) '0' ++ upperDigits n := by
  rw [hex, String.toList_ofList, filled]

/-- A numeral shows one number, however it is filled. -/
theorem valueOf_hex (width n : Nat) : valueOf (hex width n).toList = n := by
  rw [toList_hex, valueOf_fill, valueOf_upperDigits]

theorem isAlphanum_of_mem_hex {width n : Nat} {c : Char} (among : c ∈ (hex width n).toList) :
    c.isAlphanum := by
  rw [toList_hex, List.mem_append, List.mem_replicate] at among
  cases among with
  | inl fill =>
      rw [fill.2]
      rfl
  | inr digit => exact isAlphanum_of_mem_upperDigits digit

theorem length_hex (width n : Nat) :
    (hex width n).toList.length = max width (Nat.toDigits 16 n).length := by
  rw [hex, String.toList_ofList, length_filled, upperDigits, List.length_map]

end Numeral

/-! ## Operands -/

namespace Operand

open Numeral

/-- The operand that a text shows, where it shows one. -/
def ofText : List Char → Operand
  | 'V' :: numeral => register (.ofNat (valueOf numeral))
  | '0' :: 'x' :: numeral =>
      if numeral.length ≤ 2 then byte (.ofNat (valueOf numeral))
      else address (.ofNat (valueOf numeral))
  | ['I'] => index
  | '[' :: _ => memory
  | 'D' :: _ => delay
  | 'S' :: _ => sound
  | 'F' :: _ => glyph
  | 'B' :: _ => digits
  | numeral => count (.ofNat (Nat.ofDigitChars 10 numeral 0))

theorem ofText_of_isDigit {numeral : List Char} (all : ∀ c ∈ numeral, c.isDigit) :
    ofText numeral = count (.ofNat (Nat.ofDigitChars 10 numeral 0)) := by
  have none {c : Char} {rest : List Char} (first : numeral = c :: rest) (other : ¬ c.isDigit) :
      False := other (all c (first ▸ List.mem_cons_self))
  unfold ofText
  split
  case h_2 rest =>
    have second : ('x' : Char).isDigit := all 'x' (List.mem_cons_of_mem _ List.mem_cons_self)
    cases second
  case h_9 => rfl
  all_goals exact (none rfl (by decide)).elim

/-- A text shows one operand. -/
theorem ofText_text (p : Operand) : ofText p.text.toList = p := by
  cases p with
  | register r =>
      have written : (register r).text.toList = 'V' :: (hex 1 r.toNat).toList :=
        String.toList_append
      rw [written, ofText, valueOf_hex, UInt8.ofNat_toNat]
  | byte b =>
      have digits : (Nat.toDigits 16 b.toNat).length ≤ 2 :=
        (Nat.length_toDigits_le_iff (by decide) (by decide)).mpr b.toNat_lt
      have length : (hex 2 b.toNat).toList.length ≤ 2 := by
        rw [length_hex]
        omega
      have written : (byte b).text.toList = '0' :: 'x' :: (hex 2 b.toNat).toList :=
        String.toList_append
      rw [written, ofText, if_pos length, valueOf_hex, UInt8.ofNat_toNat]
  | address a =>
      have length : ¬ (hex 3 a.toNat).toList.length ≤ 2 := by
        rw [length_hex]
        omega
      have written : (address a).text.toList = '0' :: 'x' :: (hex 3 a.toNat).toList :=
        String.toList_append
      rw [written, ofText, if_neg length, valueOf_hex, UInt16.ofNat_toNat]
  | count n =>
      have digits : (toString n.toNat).toList = Nat.toDigits 10 n.toNat := Nat.toList_repr
      rw [text, digits, ofText_of_isDigit, Nat.ofDigitChars_ten_toDigits, UInt8.ofNat_toNat]
      intro c among
      exact Nat.isDigit_of_mem_toDigits (by decide) (by decide) among
  | index | memory | delay | sound | glyph | digits => rfl

theorem text_injective {p q : Operand} (same : p.text = q.text) : p = q := by
  rw [← ofText_text p, same, ofText_text]

/-- No operand is cut in two by the commas between operands. -/
theorem comma_not_mem_text (p : Operand) : ',' ∉ p.text.toList := by
  have hex {width n : Nat} : ',' ∉ (hex width n).toList := by
    intro among
    cases isAlphanum_of_mem_hex among
  cases p with
  | register r | byte b | address a =>
      rw [text, String.toList_append, List.mem_append]
      exact not_or_intro (by decide) hex
  | count n =>
      intro among
      have digits : (toString n.toNat).toList = Nat.toDigits 10 n.toNat := Nat.toList_repr
      rw [text, digits] at among
      cases Nat.isDigit_of_mem_toDigits (by decide) (by decide) among
  | index | memory | delay | sound | glyph | digits => decide

end Operand

/-! ## Taking a mnemonic apart -/

section
variable {α : Type} {separator : α}

/-- A list is cut at its first separator in one way. -/
theorem cut_inj {xs ys after rest : List α} (hx : separator ∉ xs) (hy : separator ∉ ys)
    (same : xs ++ separator :: after = ys ++ separator :: rest) : xs = ys ∧ after = rest := by
  induction xs generalizing ys with
  | nil =>
      cases ys with
      | nil => exact ⟨rfl, List.tail_eq_of_cons_eq same⟩
      | cons y ys =>
          cases same
          exact (hy List.mem_cons_self).elim
  | cons x xs ih =>
      cases ys with
      | nil =>
          cases same
          exact (hx List.mem_cons_self).elim
      | cons y ys =>
          obtain ⟨rfl, tail⟩ := List.cons_eq_cons.mp same
          obtain ⟨rfl, rest⟩ :=
            ih (List.not_mem_of_not_mem_cons hx) (List.not_mem_of_not_mem_cons hy) tail
          exact ⟨rfl, rest⟩

/-- Lists without a separator are found again between those that join them. -/
theorem intercalate_inj {blank : α} {lists others : List (List α)}
    (hl : ∀ xs ∈ lists, separator ∉ xs) (ho : ∀ xs ∈ others, separator ∉ xs)
    (some : lists ≠ []) (more : others ≠ [])
    (same : [separator, blank].intercalate lists = [separator, blank].intercalate others) :
    lists = others := by
  -- One list alone has no separator, and two have one after the first.
  have joined (xs ys : List α) (rest : List (List α)) :
      [separator, blank].intercalate (xs :: ys :: rest) =
        xs ++ separator :: blank :: [separator, blank].intercalate (ys :: rest) := by
    simp [List.intercalate_cons_cons]
  have single (xs : List α) : [separator, blank].intercalate [xs] = xs := by simp
  have apart (xs ys zs : List α) (rest : List (List α)) (none : separator ∉ xs) :
      xs ≠ [separator, blank].intercalate (ys :: zs :: rest) := by
    rintro rfl
    rw [joined] at none
    exact none (List.mem_append_right _ List.mem_cons_self)
  induction lists generalizing others with
  | nil => exact (some rfl).elim
  | cons xs lists ih =>
      cases others with
      | nil => exact (more rfl).elim
      | cons ys others =>
          have hx := hl xs List.mem_cons_self
          have hy := ho ys List.mem_cons_self
          cases lists with
          | nil =>
              cases others with
              | nil => rw [← single xs, ← single ys, same]
              | cons zs others =>
                  rw [single] at same
                  exact (apart _ _ _ _ hx same).elim
          | cons zs lists =>
              cases others with
              | nil =>
                  rw [single] at same
                  exact (apart _ _ _ _ hy same.symm).elim
              | cons us others =>
                  rw [joined, joined] at same
                  obtain ⟨rfl, tail⟩ := cut_inj hx hy same
                  rw [ih (fun xs among => hl xs (List.mem_cons_of_mem _ among))
                    (fun xs among => ho xs (List.mem_cons_of_mem _ among)) (List.cons_ne_nil _ _)
                    (List.cons_ne_nil _ _) (List.tail_eq_of_cons_eq tail)]

end

namespace Opcode

theorem space_not_mem_head (op : Opcode) : ' ' ∉ op.head.toList := by
  cases op <;> simp [head]

theorem mnemonic_of_bare {op : Opcode} (bare : op.operands = []) : op.mnemonic = op.head := by
  rw [mnemonic, bare]

theorem toList_mnemonic {op : Opcode} (some : op.operands ≠ []) :
    op.mnemonic.toList = op.head.toList ++ ' ' ::
      [',', ' '].intercalate (op.operands.map fun p => p.text.toList) := by
  have mnemonic : op.mnemonic =
      op.head ++ " " ++ ", ".intercalate (op.operands.map Operand.text) := by
    rw [Opcode.mnemonic]
    split
    · contradiction
    · rfl
  rw [mnemonic, String.toList_append, String.toList_append, String.toList_intercalate,
    List.map_map, List.append_assoc]
  rfl

/-- The first word and the operands can be read off a mnemonic. -/
theorem parts_of_mnemonic {p q : Opcode} (same : p.mnemonic = q.mnemonic) :
    p.head = q.head ∧ p.operands = q.operands := by
  -- A mnemonic with operands has a space, which no first word has.
  have apart {p q : Opcode} (bare : p.operands = []) (some : q.operands ≠ []) :
      p.mnemonic ≠ q.mnemonic := by
    intro same
    have space := space_not_mem_head p
    rw [← mnemonic_of_bare bare, same, toList_mnemonic some] at space
    exact space (List.mem_append_right _ List.mem_cons_self)
  by_cases hp : p.operands = []
  · by_cases hq : q.operands = []
    · rw [mnemonic_of_bare hp, mnemonic_of_bare hq] at same
      exact ⟨same, hp.trans hq.symm⟩
    · exact (apart hp hq same).elim
  · by_cases hq : q.operands = []
    · exact (apart hq hp same.symm).elim
    · have lists := congrArg String.toList same
      rw [toList_mnemonic hp, toList_mnemonic hq] at lists
      obtain ⟨head, texts⟩ := cut_inj (space_not_mem_head p) (space_not_mem_head q) lists
      have clean (op : Opcode) : ∀ t ∈ op.operands.map fun p => p.text.toList, ',' ∉ t :=
        List.forall_mem_map.mpr fun p _ => p.comma_not_mem_text
      have texts := intercalate_inj (clean p) (clean q) (mt List.map_eq_nil_iff.mp hp)
        (mt List.map_eq_nil_iff.mp hq) texts
      refine ⟨String.toList_inj.mp head, (List.map_inj_right ?_).mp texts⟩
      intro a b equal
      exact Operand.text_injective (String.toList_inj.mp equal)

/-- The opcode of a first word and its operands. -/
def ofParts? : String → List Operand → Option Opcode
  | "RET", [] => some ret
  | "JP", [.address a] => some (jump a)
  | "CALL", [.address a] => some (call a)
  | "SE", [.register x, .byte b] => some (skipIfByte x b)
  | "SE", [.register x, .register y] => some (skipIfSame x y)
  | "SNE", [.register x, .byte b] => some (skipUnlessByte x b)
  | "ADD", [.register x, .byte b] => some (addByte x b)
  | "ADD", [.register x, .register y] => some (add x y)
  | "ADD", [.index, .register x] => some (addIndex x)
  | "AND", [.register x, .register y] => some (conjoin x y)
  | "SUB", [.register x, .register y] => some (subtract x y)
  | "SHR", [.register x, .register y] => some (shiftRight x y)
  | "SHL", [.register x, .register y] => some (shiftLeft x y)
  | "RND", [.register x, .byte b] => some (random x b)
  | "DRW", [.register x, .register y, .count n] => some (draw x y n)
  | "SKNP", [.register x] => some (skipIfKeyUp x)
  | "LD", [.register x, .byte b] => some (loadByte x b)
  | "LD", [.register x, .register y] => some (move x y)
  | "LD", [.register x, .delay] => some (readDelay x)
  | "LD", [.register x, .memory] => some (loadRegisters x)
  | "LD", [.index, .address a] => some (loadIndex a)
  | "LD", [.glyph, .register x] => some (loadGlyph x)
  | "LD", [.delay, .register x] => some (setDelay x)
  | "LD", [.sound, .register x] => some (setSound x)
  | "LD", [.digits, .register x] => some (storeDigits x)
  | "LD", [.memory, .register x] => some (saveRegisters x)
  | _, _ => none

/-- The first word and the operands belong to one opcode. -/
theorem ofParts?_parts (op : Opcode) : ofParts? op.head op.operands = some op := by
  cases op <;> rfl

theorem eq_of_mnemonic {p q : Opcode} (same : p.mnemonic = q.mnemonic) : p = q := by
  obtain ⟨head, operands⟩ := parts_of_mnemonic same
  have parts := ofParts?_parts p
  rw [head, operands, ofParts?_parts] at parts
  exact (Option.some.inj parts).symm

end Opcode

/-! ## Words -/

namespace Instruction

theorem isReturn_of_word {i : Instruction} (word : i.word = 0x00EE) : i.IsReturn := by
  rw [← ofWord_word i, word]
  decide

/-- Two words have one opcode when they are the same word or are both returns. -/
theorem decode?_eq_iff {i j : Instruction} {p q : Opcode} (first : i.decode? = some p)
    (second : j.decode? = some q) : p = q ↔ i = j ∨ i.IsReturn ∧ j.IsReturn := by
  constructor
  · rintro rfl
    have encoded := encode_of_decode? first
    rw [encode_of_decode? second] at encoded
    by_cases hi : i.IsReturn
    · by_cases hj : j.IsReturn
      · exact .inr ⟨hi, hj⟩
      · rw [if_neg hj, if_pos hi] at encoded
        exact (hj (isReturn_of_word encoded)).elim
    · by_cases hj : j.IsReturn
      · rw [if_pos hj, if_neg hi] at encoded
        exact (hi (isReturn_of_word encoded.symm)).elim
      · rw [if_neg hj, if_neg hi] at encoded
        rw [← ofWord_word i, ← encoded, ofWord_word]
        exact .inl rfl
  · rintro (rfl | ⟨hi, hj⟩)
    · exact Option.some.inj (first.symm.trans second)
    · rw [decode?_of_isReturn hi] at first
      rw [decode?_of_isReturn hj] at second
      exact Option.some.inj (first.symm.trans second)

end Instruction

/-- A line of the log shows the mnemonic in it. -/
theorem Event.logLine?_decoded_inj {pc : UInt16} {p q : Opcode} :
    (decoded pc p).logLine? = (decoded pc q).logLine? ↔ p.mnemonic = q.mnemonic := by
  constructor
  · intro same
    exact (String.append_right_inj _).mp (Option.some.inj same)
  · intro same
    rw [logLine?, logLine?, same]

open Instruction in
/-- Opcodes with one mnemonic are one opcode.  So of two words that decode, the mnemonics, and the
lines of the log where both stand at one place, are alike when the words are the same or both of
the form `0x0?EE`, and only then. -/
theorem mnemonics_unambiguous :
    (∀ p q : Opcode, p.mnemonic = q.mnemonic ↔ p = q) ∧
      ∀ (v w : UInt16) (p q : Opcode), (ofWord v).decode? = some p → (ofWord w).decode? = some q →
        (p.mnemonic = q.mnemonic ↔ v = w ∨ (ofWord v).IsReturn ∧ (ofWord w).IsReturn) ∧
          ∀ pc, (Event.decoded pc p).logLine? = (Event.decoded pc q).logLine? ↔
            v = w ∨ (ofWord v).IsReturn ∧ (ofWord w).IsReturn := by
  have injective (p q : Opcode) : p.mnemonic = q.mnemonic ↔ p = q :=
    ⟨Opcode.eq_of_mnemonic, congrArg _⟩
  have words (v w : UInt16) : ofWord v = ofWord w ↔ v = w := by
    constructor
    · intro same
      rw [← word_ofWord v, same, word_ofWord]
    · exact congrArg _
  refine ⟨injective, ?_⟩
  intro v w p q first second
  have same := (injective p q).trans (decode?_eq_iff first second)
  rw [words] at same
  exact ⟨same, fun pc => Event.logLine?_decoded_inj.trans same⟩

open Instruction in
/-- A comparison with a register and one with a byte share their first word and are told apart by
the second operand, also in the log. -/
theorem comparisons_told_apart :
    (ofWord 0x5120).decode? = some (.skipIfSame 1 2) ∧
      (ofWord 0x3102).decode? = some (.skipIfByte 1 2) ∧
      (Opcode.skipIfSame 1 2).mnemonic ≠ (Opcode.skipIfByte 1 2).mnemonic ∧
      (Event.decoded 0x200 (.skipIfSame 1 2)).logLine? ≠
        (Event.decoded 0x200 (.skipIfByte 1 2)).logLine? := by
  have registers : (ofWord 0x5120).decode? = some (.skipIfSame 1 2) := by decide
  have byte : (ofWord 0x3102).decode? = some (.skipIfByte 1 2) := by decide
  obtain ⟨-, words⟩ := mnemonics_unambiguous
  obtain ⟨mnemonic, line⟩ := words _ _ _ _ registers byte
  have apart :
      ¬ ((0x5120 : UInt16) = 0x3102 ∨ (ofWord 0x5120).IsReturn ∧ (ofWord 0x3102).IsReturn) := by
    decide
  exact ⟨registers, byte, mt mnemonic.mp apart, mt (line 0x200).mp apart⟩

end Chip8
