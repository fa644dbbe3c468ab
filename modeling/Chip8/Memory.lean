import Chip8.Attempt
import Chip8.Text.Description

/-!
# Memory

4096 bytes.  The sixteen glyphs of the font start at address 0, and a program is
written at the entry point `0x200` and above.

A single access fails beyond the last byte.  A span is checked through the
address of its last byte, where a sum that no 64-bit address can hold is cut to
the largest one.  A span of no bytes passes the check wherever it starts.
Taking the bytes of such a span needs its start to be a place in memory or the
end of it, and `Memory.slice` crashes beyond that.

`read_write` and `getElem?_overlay` say what a later read sees.
-/

namespace Chip8

/-- The bytes of the machine. -/
structure Memory where
  /-- The bytes, by address. -/
  cells : Vector UInt8 4096
deriving DecidableEq

namespace Memory

/-- The number of bytes. -/
abbrev size : Nat := 4096

/-- The address of the first program byte, where PC starts. -/
def entryPoint : Nat := 0x200

/-- The number of bytes from the entry point to the end. -/
def programSpace : Nat := size - entryPoint

/-- The largest address a caller can name. -/
def lastAddress : Nat := UInt64.size - 1

/-- The address of the first glyph. -/
def fontBase : UInt16 := 0

/-- Bytes of one glyph. -/
def glyphSize : UInt16 := 5

/-- The glyphs of `0` to `F`, each five rows of four pixels in the high nibbles. -/
def font : List UInt8 := [
  0xF0, 0x90, 0x90, 0x90, 0xF0, 0x20, 0x60, 0x20, 0x20, 0x70,
  0xF0, 0x10, 0xF0, 0x80, 0xF0, 0xF0, 0x10, 0xF0, 0x10, 0xF0,
  0x90, 0x90, 0xF0, 0x10, 0x10, 0xF0, 0x80, 0xF0, 0x10, 0xF0,
  0xF0, 0x80, 0xF0, 0x90, 0xF0, 0xF0, 0x10, 0x20, 0x40, 0x40,
  0xF0, 0x90, 0xF0, 0x90, 0xF0, 0xF0, 0x90, 0xF0, 0x10, 0xF0,
  0xF0, 0x90, 0xF0, 0x90, 0x90, 0xE0, 0x90, 0xE0, 0x90, 0xE0,
  0xF0, 0x80, 0x80, 0x80, 0xF0, 0xE0, 0x90, 0x90, 0x90, 0xE0,
  0xF0, 0x80, 0xF0, 0x80, 0xF0, 0xF0, 0x80, 0xF0, 0x80, 0x80]

/-- Memory with every byte zero. -/
def zero : Memory := ⟨.replicate size 0⟩

/-! ## Single bytes -/

/-- The byte at an address. -/
def read (m : Memory) (address : Nat) : Except Fault UInt8 :=
  if h : address < size then .ok m.cells[address] else .error (.addressOutOfRange address)

/-- Replace the byte at an address. -/
def write (address : Nat) (byte : UInt8) : Effect Memory Unit := fun m =>
  if h : address < size then ⟨.ok (), ⟨m.cells.set address byte h⟩⟩
  else ⟨.error (.addressOutOfRange address), m⟩

theorem read_of_lt (m : Memory) {a : Nat} (h : a < size) : m.read a = .ok m.cells[a] := by
  simp [read, h]

theorem read_of_le (m : Memory) {a : Nat} (h : size ≤ a) :
    m.read a = .error (.addressOutOfRange a) := by
  simp [read, Nat.not_lt.mpr h]

theorem write_of_lt (m : Memory) {a : Nat} (b : UInt8) (h : a < size) :
    m.write a b = ⟨.ok (), ⟨m.cells.set a b h⟩⟩ := by
  simp [write, h]

theorem write_of_le (m : Memory) {a : Nat} (b : UInt8) (h : size ≤ a) :
    m.write a b = ⟨.error (.addressOutOfRange a), m⟩ := by
  simp [write, Nat.not_lt.mpr h]

/-- A read after a write sees the written byte at its address and the old one elsewhere. -/
theorem read_write {m m' : Memory} {a : Nat} {b : UInt8} (h : m.write a b = ⟨.ok (), m'⟩)
    (k : Nat) :
    m'.read k = if k = a then .ok b else m.read k := by
  by_cases ha : a < size
  · rw [write_of_lt m b ha] at h
    obtain rfl : (⟨m.cells.set a b ha⟩ : Memory) = m' := by simpa using h
    by_cases hk : k < size
    · by_cases hka : k = a
      · subst hka
        simp [read, hk]
      · simp [read, hk, hka, Ne.symm hka]
    · have hka : k ≠ a := by omega
      simp [read, hk, hka]
  · simp [write, ha] at h

/-! ## Spans -/

/-- Whether every byte of a span exists, through the address of its last byte. -/
def checkSpan (address length : Nat) : Except Fault Unit :=
  if length = 0 then .ok ()
  else
    let last := min (address + length - 1) lastAddress
    if last < size then .ok () else .error (.addressOutOfRange last)

/-- The bytes of a span. -/
def slice (m : Memory) (address length : Nat) : Except Stop (List UInt8) :=
  match checkSpan address length with
  | .error f => .error (.fault f)
  | .ok () =>
      if address ≤ size then .ok (m.cells.toArray.extract address (address + length)).toList
      else .error .crash

/-- The bytes from an address on with their addresses, as many as exist. -/
def dump (m : Memory) (start count : Nat) : List (Nat × UInt8) :=
  let stop := min (min (start + count) lastAddress) size
  let first := min start stop
  (List.range' first (stop - first)).filterMap fun a => m.cells[a]?.map (a, ·)

@[simp] theorem checkSpan_zero (a : Nat) : checkSpan a 0 = .ok () := rfl

theorem checkSpan_of_pos {a n : Nat} (h : n ≠ 0) :
    checkSpan a n =
      if min (a + n - 1) lastAddress < size then .ok ()
      else .error (.addressOutOfRange (min (a + n - 1) lastAddress)) := by
  simp [checkSpan, h]

/-! ## Whole regions -/

/-- Cells with bytes written one after the other from an address on.  Bytes that would stand
beyond the last cell are dropped. -/
def writeFrom (cells : Vector UInt8 4096) (start : Nat) : List UInt8 → Vector UInt8 4096
  | [] => cells
  | byte :: bytes => writeFrom (cells.setIfInBounds start byte) (start + 1) bytes

/-- Memory with bytes written from an address on. -/
def overlay (m : Memory) (start : Nat) (bytes : List UInt8) : Memory :=
  ⟨writeFrom m.cells start bytes⟩

/-- Memory with the font at its place. -/
def withFont (m : Memory) : Memory := m.overlay fontBase.toNat font

/-- Write a program at the entry point. -/
def loadProgram (program : List UInt8) : Effect Memory Unit := fun m =>
  if program.length ≤ programSpace then ⟨.ok (), m.overlay entryPoint program⟩
  else ⟨.error (.programTooLarge program.length programSpace), m⟩

/-- The memory a program starts with: the font, the program, and zero elsewhere.  A program that
does not fit is not written. -/
def image (program : List UInt8) : Memory := (zero.withFont.loadProgram program).state

theorem getElem?_writeFrom (cells : Vector UInt8 4096) (start : Nat) (bytes : List UInt8) {a : Nat}
    (h : a < size) :
    (writeFrom cells start bytes)[a]? =
      if start ≤ a ∧ a - start < bytes.length then bytes[a - start]? else cells[a]? := by
  induction bytes generalizing cells start with
  | nil => simp [writeFrom]
  | cons byte bytes ih =>
    rw [writeFrom, ih]
    by_cases hlt : start < a
    · have hsub : a - start = a - (start + 1) + 1 := by omega
      have hne : start ≠ a := by omega
      simp only [Vector.getElem?_setIfInBounds_ne hne, hsub, List.getElem?_cons_succ,
        List.length_cons]
      congr 1
      simp only [eq_iff_iff]
      omega
    · by_cases heq : start = a
      · subst heq
        have ha : start < 4096 := h
        rw [if_neg (by omega)]
        simp [ha]
      · have h1 : ¬ (start + 1 ≤ a ∧ a - (start + 1) < bytes.length) := by omega
        have h2 : ¬ (start ≤ a ∧ a - start < (byte :: bytes).length) := by omega
        rw [if_neg h1, if_neg h2, Vector.getElem?_setIfInBounds_ne heq]

theorem getElem?_overlay (m : Memory) (start : Nat) (bytes : List UInt8) {a : Nat}
    (h : a < size) :
    (m.overlay start bytes).cells[a]? =
      if start ≤ a ∧ a - start < bytes.length then bytes[a - start]? else m.cells[a]? :=
  getElem?_writeFrom m.cells start bytes h

theorem image_of_fits {program : List UInt8} (fits : program.length ≤ programSpace) :
    image program = zero.withFont.overlay entryPoint program := by
  rw [image, loadProgram, if_pos fits]

/-- The bytes of a program that fits stand at the entry point. -/
theorem read_image {program : List UInt8} {k : Nat} {byte : UInt8} (h : program[k]? = some byte)
    (whole : program.length ≤ programSpace) : (image program).read (entryPoint + k) = .ok byte := by
  obtain ⟨hk, -⟩ := List.getElem?_eq_some_iff.mp h
  have fits : entryPoint + k < size := by
    unfold programSpace at whole
    omega
  have hcell : (image program).cells[entryPoint + k]? = some byte := by
    rw [image_of_fits whole, getElem?_overlay _ _ _ fits, if_pos (by omega),
      Nat.add_sub_cancel_left, h]
  rw [read_of_lt _ fits]
  rw [Vector.getElem?_eq_getElem fits] at hcell
  rw [Option.some.inj hcell]

/-! ## Views -/

/-- The number of bytes that are not zero. -/
def nonZeroCount (m : Memory) : Nat := m.cells.toList.countP (· ≠ 0)

/-- A one-line description: the content is summed up, since 4096 bytes are no help to read. -/
def describe (m : Memory) : String :=
  Description.record "Memory"
    [("non_zero_bytes", toString m.nonZeroCount), ("total_bytes", toString size)]

/-- The bytes in which the second memory differs from the first, with their addresses. -/
def changes (before after : Memory) : List (Nat × UInt8) :=
  (List.range size).filterMap fun a =>
    if before.cells[a]? = after.cells[a]? then none else after.cells[a]?.map (a, ·)

end Memory

end Chip8
