import Chip8.Proofs.Cpu.Stepping

/-!
# Batches as single steps

A batch is compared with the machine that takes single steps and never stops
(`Cpu.after`).  A machine either runs for the whole batch (`Runs`), or a step in it
is the first to fail (`FailsAfter`).  `steps_of_runs` and `steps_of_failsAfter` give
the result and the machine of a batch in the two cases, and `steps_error_iff` turns
the second around.

A batch may be cut in two anywhere (`runBatch_add`).
-/

namespace Chip8.Cpu

variable {δ : Type} [Display δ] {c : Cpu δ} {e : Stop} {m n s : Nat}

/-! ## Single steps -/

/-- The machine after a number of single steps, whatever came of each. -/
def after (c : Cpu δ) : Nat → Cpu δ
  | 0 => c
  | n + 1 => after c.step.state n

@[simp] theorem after_zero (c : Cpu δ) : c.after 0 = c := rfl

theorem after_add (c : Cpu δ) (m n : Nat) : c.after (m + n) = (c.after m).after n := by
  induction m generalizing c with
  | zero => rw [Nat.zero_add, after_zero]
  | succ m ih =>
      rw [Nat.succ_add]
      exact ih c.step.state

theorem after_succ (c : Cpu δ) (n : Nat) : c.after (n + 1) = (c.after n).step.state :=
  after_add c n 1

/-- The first steps of a machine, so many of them, succeed. -/
def Runs (c : Cpu δ) (n : Nat) : Prop := ∀ k < n, ∃ op, (c.after k).step.result = .ok op

/-- The first steps of a machine succeed, and the one after them fails. -/
structure FailsAfter (c : Cpu δ) (s : Nat) (e : Stop) : Prop where
  runs : c.Runs s
  fails : (c.after s).step.result = .error e

theorem runs_zero (c : Cpu δ) : c.Runs 0 := fun k hk => absurd hk (Nat.not_lt_zero k)

theorem Runs.mono (runs : c.Runs n) (h : m ≤ n) : c.Runs m :=
  fun k hk => runs k (Nat.lt_of_lt_of_le hk h)

theorem runs_add_iff : c.Runs (m + n) ↔ c.Runs m ∧ (c.after m).Runs n := by
  constructor
  · intro runs
    refine ⟨runs.mono (Nat.le_add_right m n), ?_⟩
    intro k hk
    rw [← after_add]
    exact runs (m + k) (Nat.add_lt_add_left hk m)
  · rintro ⟨first, second⟩ k hk
    by_cases h : k < m
    · exact first k h
    · obtain ⟨j, rfl⟩ := Nat.exists_eq_add_of_le (Nat.not_lt.mp h)
      rw [after_add]
      exact second j (by omega)

theorem runs_one_iff : c.Runs 1 ↔ ∃ op, c.step.result = .ok op := by
  constructor
  · intro runs
    exact runs 0 Nat.one_pos
  · intro ok k hk
    obtain rfl := Nat.lt_one_iff.mp hk
    exact ok

/-- Every number of steps is run through, or has a first step that fails. -/
theorem runs_or_failsAfter (c : Cpu δ) (n : Nat) :
    c.Runs n ∨ ∃ s < n, ∃ e, c.FailsAfter s e := by
  induction n with
  | zero => exact .inl (runs_zero c)
  | succ n ih =>
      rcases ih with runs | ⟨s, hs, e, failure⟩
      · -- The last step decides.
        cases last : (c.after n).step.result with
        | error e => exact .inr ⟨n, Nat.lt_succ_self n, e, runs, last⟩
        | ok op => exact .inl (runs_add_iff.mpr ⟨runs, runs_one_iff.mpr ⟨op, last⟩⟩)
      · exact .inr ⟨s, Nat.lt_succ_of_lt hs, e, failure⟩

theorem failsAfter_zero (failed : c.step.result = .error e) : c.FailsAfter 0 e :=
  ⟨runs_zero c, failed⟩

theorem FailsAfter.not_runs (failure : c.FailsAfter s e) (h : s < n) : ¬ c.Runs n := by
  intro runs
  obtain ⟨op, ok⟩ := runs s h
  rw [failure.fails] at ok
  cases ok

theorem FailsAfter.of_after (first : c.Runs m) (failure : (c.after m).FailsAfter s e) :
    c.FailsAfter (m + s) e where
  runs := runs_add_iff.mpr ⟨first, failure.runs⟩
  fails := by
    rw [after_add]
    exact failure.fails

/-- The first failure is the only one. -/
theorem FailsAfter.unique {t : Nat} {e' : Stop} (failure : c.FailsAfter s e)
    (other : c.FailsAfter t e') : s = t ∧ e = e' := by
  have same : s = t := by
    rcases Nat.lt_trichotomy s t with before | same | before
    · exact absurd other.runs (failure.not_runs before)
    · exact same
    · exact absurd failure.runs (other.not_runs before)
  subst same
  exact ⟨rfl, Except.error.inj (failure.fails.symm.trans other.fails)⟩

/-! ## Counting -/

theorem cycles_step (ok : ∃ op, c.step.result = .ok op) : c.step.state.cycles = c.cycles + 1 := by
  obtain ⟨op, ok⟩ := ok
  have counted := (stepped c).cycles
  rw [ok] at counted
  exact counted

theorem cycles_failed_step (failed : c.step.result = .error e) :
    c.step.state.cycles = c.cycles := by
  have counted := (stepped c).cycles
  rw [failed] at counted
  exact counted

theorem Runs.cycles (runs : c.Runs n) : (c.after n).cycles = c.cycles + n := by
  induction n with
  | zero => rfl
  | succ n ih =>
      obtain ⟨first, last⟩ := runs_add_iff.mp runs
      rw [after_succ, cycles_step (runs_one_iff.mp last), ih first, Nat.add_assoc]

theorem FailsAfter.cycles (failure : c.FailsAfter s e) :
    (c.after (s + 1)).cycles = c.cycles + s := by
  rw [after_succ, cycles_failed_step failure.fails, failure.runs.cycles]

/-! ## Batches -/

/-- A batch cut in two: the second part runs when the first succeeded. -/
theorem steps_add (c : Cpu δ) (m n : Nat) :
    c.steps (m + n) =
      match (c.steps m).result with
      | .error _ => c.steps m
      | .ok () => { (c.steps m).state.steps n with
          events := (c.steps m).events ++ ((c.steps m).state.steps n).events } := by
  induction m generalizing c with
  | zero => simp [steps_zero]
  | succ m ih =>
      rw [Nat.succ_add]
      cases first : c.step.result with
      | error e => rw [steps_succ_of_error first, steps_succ_of_error first]
      | ok op =>
          rw [steps_succ_of_ok first, steps_succ_of_ok first, ih]
          cases (c.step.state.steps m).result with
          | error e => simp only
          | ok u => simp only [List.append_assoc]

theorem steps_of_runs (runs : c.Runs n) :
    (c.steps n).result = .ok () ∧ (c.steps n).state = c.after n := by
  induction n generalizing c with
  | zero => exact ⟨rfl, rfl⟩
  | succ n ih =>
      rw [Nat.add_comm] at runs
      obtain ⟨first, rest⟩ := runs_add_iff.mp runs
      obtain ⟨op, ok⟩ := runs_one_iff.mp first
      rw [steps_succ_of_ok ok]
      exact ih rest

theorem steps_of_failsAfter (failure : c.FailsAfter s e) (h : s < n) :
    (c.steps n).result = .error e ∧ (c.steps n).state = c.after (s + 1) := by
  obtain ⟨ran, state⟩ := steps_of_runs failure.runs
  obtain ⟨k, rfl⟩ := Nat.exists_eq_add_of_lt h
  have failed : (c.steps s).state.step.result = .error e := by
    rw [state]
    exact failure.fails
  rw [Nat.add_assoc, steps_add]
  simp only [ran]
  rw [steps_succ_of_error failed, state, after_succ]
  exact ⟨rfl, rfl⟩

theorem steps_eq_ok_iff : (c.steps n).result = .ok () ↔ c.Runs n := by
  constructor
  · intro ok
    rcases runs_or_failsAfter c n with runs | ⟨s, hs, e, failure⟩
    · exact runs
    · rw [(steps_of_failsAfter failure hs).1] at ok
      cases ok
  · intro runs
    exact (steps_of_runs runs).1

/-- A batch fails with the first failure in it. -/
theorem steps_error_iff : (c.steps n).result = .error e ↔ ∃ s < n, c.FailsAfter s e := by
  constructor
  · intro failed
    rcases runs_or_failsAfter c n with runs | ⟨s, hs, e', failure⟩
    · rw [(steps_of_runs runs).1] at failed
      cases failed
    · rw [(steps_of_failsAfter failure hs).1] at failed
      obtain rfl := Except.error.inj failed
      exact ⟨s, hs, failure⟩
  · rintro ⟨s, hs, failure⟩
    exact (steps_of_failsAfter failure hs).1

theorem runBatch_of_runs (runs : c.Runs n) :
    (c.runBatch n).result = .ok n ∧ (c.runBatch n).state = c.after n := by
  obtain ⟨ok, state⟩ := steps_of_runs runs
  refine ⟨?_, state⟩
  rw [runBatch]
  simp only [ok, state]
  rw [runs.cycles, Nat.add_sub_cancel_left]
  rfl

theorem runBatch_of_failsAfter (failure : c.FailsAfter s e) (h : s < n) :
    (c.runBatch n).result = .error e ∧ (c.runBatch n).state = c.after (s + 1) := by
  obtain ⟨failed, state⟩ := steps_of_failsAfter failure h
  refine ⟨?_, state⟩
  rw [runBatch]
  simp only [failed]
  rfl

/-- A batch is the same as its two parts one after the other, events and all: the second part
runs when the first succeeded, and the counts add up. -/
theorem runBatch_add (c : Cpu δ) (m n : Nat) :
    c.runBatch (m + n) =
      match (c.runBatch m).result with
      | .error _ => c.runBatch m
      | .ok ran =>
          let rest := (c.runBatch m).state.runBatch n
          { rest with
            result := rest.result.map (ran + ·), events := (c.runBatch m).events ++ rest.events } := by
  have whole := steps_add c m n
  cases first : (c.steps m).result with
  | error e =>
      simp only [first] at whole
      have failed : (c.runBatch m).result = .error e := by
        rw [runBatch]
        simp only [first]
        rfl
      simp only [failed]
      rw [runBatch, whole, runBatch]
  | ok u =>
      simp only [first] at whole
      have runs := steps_eq_ok_iff.mp first
      have counted : (c.steps m).state.cycles = c.cycles + m := by
        rw [(steps_of_runs runs).2]
        exact runs.cycles
      simp only [(runBatch_of_runs runs).1]
      rw [runBatch, whole, runBatch, runBatch]
      cases second : ((c.steps m).state.steps n).result with
      | error e =>
          simp only
          rfl
      | ok u =>
          have final : ((c.steps m).state.steps n).state.cycles = (c.steps m).state.cycles + n := by
            have rest := steps_eq_ok_iff.mp second
            rw [(steps_of_runs rest).2]
            exact rest.cycles
          have total : ((c.steps m).state.steps n).state.cycles - c.cycles =
              m + (((c.steps m).state.steps n).state.cycles - (c.steps m).state.cycles) := by
            omega
          simp only [Except.map, total]

end Chip8.Cpu
