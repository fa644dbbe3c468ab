import Chip8.Proofs.Span

/-!
# The views of memory

Memory is read one byte at a time, as the bytes of a span, and as a dump of bytes with
their addresses.  Each view has a bound of its own.  A read compares its address with the
size.  A span is checked through the address of its last byte, and a dump through the
address after its last one, and where no caller could name that address it is cut to the
largest that one can.  The cut never lets a byte in and never leaves one out.

`SpanAsRead` and `DumpAsRead` tell a span and a dump through single reads, and
`viewed_as_read` proves them of every memory and all addresses, however large.
-/

namespace Chip8.Memory

variable {m : Memory} {a n start count : Nat}

theorem exists_read_iff : (∃ byte, m.read a = .ok byte) ↔ a < size := by
  constructor
  · rintro ⟨byte, read⟩
    apply Nat.lt_of_not_le
    intro outside
    rw [read_of_le m outside] at read
    cases read
  · intro inside
    exact ⟨_, read_of_lt m inside⟩

/-! ## Spans -/

/-- A span as its bytes are read one by one. -/
structure SpanAsRead (m : Memory) (a n : Nat) : Prop where
  /-- The check passes when every byte of the span can be read. -/
  passes : checkSpan a n = .ok () ↔ ∀ k < n, ∃ byte, m.read (a + k) = .ok byte
  /-- The bytes of a span that passes are taken in the order of their addresses. -/
  taken : checkSpan a n = .ok () → ∃ bytes, m.slice a n = .ok bytes ∧
    bytes.map .ok = (List.range n).map fun k => m.read (a + k)
  /-- A span that does not pass is refused by its last address, or the largest there is. -/
  refused : checkSpan a n ≠ .ok () →
    checkSpan a n = .error (.addressOutOfRange (min (a + n - 1) lastAddress)) ∧
      m.slice a n = .error (.fault (.addressOutOfRange (min (a + n - 1) lastAddress)))

/-- The bytes of a span are read at its last address if they are read at all. -/
theorem forall_read_iff (hn : 0 < n) :
    (∀ k < n, ∃ byte, m.read (a + k) = .ok byte) ↔ a + n ≤ 4096 := by
  simp only [exists_read_iff]
  constructor
  · intro inside
    have last : a + (n - 1) < 4096 := inside (n - 1) (by omega)
    omega
  · intro fits k hk
    change a + k < 4096
    omega

theorem map_ok_of_slice {bytes : List UInt8} (sliced : m.slice a n = .ok bytes) :
    bytes.map .ok = (List.range n).map fun k => m.read (a + k) := by
  obtain ⟨fits, length, cells⟩ := slice_ok sliced
  apply List.ext_getElem
  · simp [length]
  · intro k here there
    rw [List.length_map] at here
    have cell := cells k (length ▸ here)
    rw [List.getElem?_eq_getElem here] at cell
    rw [List.getElem_map, List.getElem_map, List.getElem_range, eq_comm]
    exact read_eq_ok_iff.mpr cell.symm

theorem spanAsRead (m : Memory) (a : Nat) (hn : 0 < n) : m.SpanAsRead a n := by
  have empty : n ≠ 0 := Nat.ne_of_gt hn
  constructor
  case passes =>
    rw [checkSpan_eq_ok_iff, forall_read_iff hn]
    exact or_iff_right empty
  case taken =>
    intro passed
    have start : a ≤ size := by
      have fits := (checkSpan_eq_ok_iff.mp passed).resolve_left empty
      change a ≤ 4096
      omega
    have sliced : m.slice a n = .ok (m.cells.toArray.extract a (a + n)).toList := by
      rw [slice, passed]
      exact if_pos start
    exact ⟨_, sliced, map_ok_of_slice sliced⟩
  case refused =>
    intro refused
    have checked : checkSpan a n = .error (.addressOutOfRange (min (a + n - 1) lastAddress)) := by
      rw [checkSpan_of_pos empty] at refused ⊢
      exact if_neg fun below => refused (if_pos below)
    refine ⟨checked, ?_⟩
    rw [slice, checked]

/-! ## Dumps -/

/-- A dump as the bytes in it are read one by one. -/
structure DumpAsRead (m : Memory) (start count : Nat) : Prop where
  /-- It lists the addresses in its range that exist, each with its byte. -/
  listed : ∀ a byte, (a, byte) ∈ m.dump start count ↔
    start ≤ a ∧ a < min (start + count) size ∧ m.read a = .ok byte
  /-- No address is listed twice, and they rise. -/
  ascending : (m.dump start count).Pairwise (·.1 < ·.1)
  /-- There is nothing to list beyond the end of memory. -/
  beyond : size ≤ start → m.dump start count = []

/-- Where a dump stops, the cut at the largest address left out. -/
theorem dump_eq (m : Memory) (start count : Nat) :
    m.dump start count =
      (List.range' start (min (start + count) size - start)).filterMap
        fun a => m.cells[a]?.map (a, ·) := by
  have last : size ≤ lastAddress := by decide
  have stop : min (min (start + count) lastAddress) size = min (start + count) size := by omega
  rw [dump, stop]
  by_cases inside : start ≤ min (start + count) size
  · rw [Nat.min_eq_left inside]
  · -- Beyond the end both ranges are empty, whatever they start from.
    have one : min (start + count) size - start = 0 := by omega
    have other : min (start + count) size - min start (min (start + count) size) = 0 := by omega
    simp only [one, other, List.range'_zero]

theorem mem_dump_iff {byte : UInt8} :
    (a, byte) ∈ m.dump start count ↔
      start ≤ a ∧ a < min (start + count) size ∧ m.read a = .ok byte := by
  rw [dump_eq, List.mem_filterMap, read_eq_ok_iff]
  constructor
  · rintro ⟨b, among, pair⟩
    obtain ⟨cell, held, same⟩ := Option.map_eq_some_iff.mp pair
    cases same
    rw [List.mem_range'_1] at among
    exact ⟨among.1, by omega, held⟩
  · rintro ⟨above, below, held⟩
    refine ⟨a, List.mem_range'_1.mpr ⟨above, by omega⟩, ?_⟩
    rw [held]
    rfl

theorem pairwise_dump (m : Memory) (start count : Nat) :
    (m.dump start count).Pairwise (·.1 < ·.1) := by
  rw [dump_eq, List.pairwise_filterMap]
  refine List.Pairwise.imp ?_ List.pairwise_lt_range'
  rintro a b lower ⟨_, x⟩ first ⟨_, y⟩ second
  obtain ⟨_, -, same⟩ := Option.map_eq_some_iff.mp first
  cases same
  obtain ⟨_, -, same⟩ := Option.map_eq_some_iff.mp second
  cases same
  exact lower

theorem dumpAsRead (m : Memory) (start count : Nat) : m.DumpAsRead start count where
  listed _ _ := mem_dump_iff
  ascending := pairwise_dump m start count
  beyond outside := by
    have empty : min (start + count) size - start = 0 := by omega
    rw [dump_eq, empty]
    rfl

/-! ## The views together -/

/-- Spans with bytes and all dumps are as single reads tell them. -/
theorem viewed_as_read (m : Memory) :
    (∀ a n, 0 < n → m.SpanAsRead a n) ∧ ∀ start count, m.DumpAsRead start count :=
  ⟨fun a _ hn => m.spanAsRead a hn, m.dumpAsRead⟩

/-- A span of the greatest length at the greatest address is refused by that address, although its
last byte would be far behind it, and a dump of as many bytes stops at the end of memory. -/
theorem largest_span_refused :
    lastAddress = 0xFFFFFFFFFFFFFFFF ∧
      zero.slice lastAddress lastAddress = .error (.fault (.addressOutOfRange lastAddress)) ∧
      (∀ a byte, (a, byte) ∈ zero.dump 0xFFE lastAddress ↔
        0xFFE ≤ a ∧ a < 0x1000 ∧ zero.read a = .ok byte) := by
  obtain ⟨spans, dumps⟩ := viewed_as_read zero
  have span := spans lastAddress lastAddress (by decide)
  have unread : ¬ ∀ k < lastAddress, ∃ byte, zero.read (lastAddress + k) = .ok byte := by
    rw [forall_read_iff (by decide)]
    decide
  exact ⟨rfl, (span.refused (mt span.passes.mp unread)).2, (dumps _ _).listed⟩

end Chip8.Memory
