import Chip8.Memory

/-!
# Spans

The check of a span and the taking of its bytes are two steps that do not quite
agree.  For a span with bytes they do.  A span of no bytes passes the check
wherever it starts, and there is no place to take its bytes from beyond the end
of memory, which is the one way to crash (`slice_crash_iff`).
-/

namespace Chip8.Memory

theorem read_eq_ok_iff {m : Memory} {a : Nat} {byte : UInt8} :
    m.read a = .ok byte ↔ m.cells[a]? = some byte := by
  by_cases inside : a < 0x1000
  · rw [read_of_lt m inside, Vector.getElem?_eq_getElem inside, Except.ok.injEq, Option.some.injEq]
  · simp [read, inside]

/-- Every span that starts near the addresses of sixteen bits and is no longer than the registers
is too short to reach the cut at the largest address. -/
theorem checkSpan_of_small {a n : Nat} (hn : n ≠ 0) (ha : a < UInt16.size + 16) (small : n ≤ 16) :
    checkSpan a n =
      if a + n - 1 < 4096 then .ok () else .error (.addressOutOfRange (a + n - 1)) := by
  have hmin : min (a + n - 1) lastAddress = a + n - 1 := by
    simp only [lastAddress, UInt64.size, UInt16.size] at ha ⊢
    omega
  rw [checkSpan_of_pos hn, hmin]

theorem checkSpan_eq_ok_iff {a n : Nat} : checkSpan a n = .ok () ↔ n = 0 ∨ a + n ≤ 4096 := by
  by_cases hn : n = 0
  · simp [hn]
  · have hlast : 4096 ≤ lastAddress := by decide
    rw [checkSpan_of_pos hn]
    constructor
    · intro passed
      split at passed
      next below =>
        change _ < 4096 at below
        omega
      next => cases passed
    · intro fits
      apply if_pos
      change _ < 4096
      omega

theorem checkSpan_fault {a n : Nat} {f : Fault} (failed : checkSpan a n = .error f) :
    ∃ k, f = .addressOutOfRange k := by
  by_cases hn : n = 0
  · rw [hn, checkSpan_zero] at failed
    cases failed
  · rw [checkSpan_of_pos hn] at failed
    split at failed
    · cases failed
    · cases failed
      exact ⟨_, rfl⟩

theorem slice_crash_iff {m : Memory} {a n : Nat} :
    m.slice a n = .error .crash ↔ n = 0 ∧ 4096 < a := by
  rw [slice]
  cases checked : checkSpan a n with
  | error f =>
      constructor
      · intro crashed
        cases crashed
      · rintro ⟨rfl, -⟩
        cases checked
  | ok u =>
      have fits := checkSpan_eq_ok_iff.mp checked
      dsimp only
      split
      next inside =>
        change a ≤ 4096 at inside
        constructor
        · intro crashed
          cases crashed
        · omega
      next outside =>
        change ¬ a ≤ 4096 at outside
        constructor
        · omega
        · intro _
          rfl

theorem slice_fault {m : Memory} {a n : Nat} {f : Fault} (failed : m.slice a n = .error (.fault f)) :
    ∃ k, f = .addressOutOfRange k := by
  rw [slice] at failed
  cases checked : checkSpan a n with
  | error g =>
      rw [checked] at failed
      cases failed
      exact checkSpan_fault checked
  | ok u =>
      rw [checked] at failed
      dsimp only at failed
      split at failed <;> cases failed

/-- The bytes of a span are those of its addresses. -/
theorem slice_ok {m : Memory} {a n : Nat} {bytes : List UInt8} (sliced : m.slice a n = .ok bytes) :
    a + n ≤ 4096 ∧ bytes.length = n ∧ ∀ k < n, bytes[k]? = m.cells[a + k]? := by
  rw [slice] at sliced
  cases checked : checkSpan a n with
  | error f =>
      rw [checked] at sliced
      cases sliced
  | ok u =>
      rw [checked] at sliced
      dsimp only at sliced
      split at sliced
      next inside =>
        change a ≤ 4096 at inside
        have fits := checkSpan_eq_ok_iff.mp checked
        have end_le : a + n ≤ 4096 := by omega
        obtain rfl := Except.ok.inj sliced
        refine ⟨end_le, ?_, ?_⟩
        · simp
          omega
        · intro k hk
          simp [hk]
      next => cases sliced

end Chip8.Memory
