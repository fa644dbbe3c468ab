import Chip8.Proofs.Cpu.Failure
import Chip8.Proofs.Host.Attachment

/-!
# Driving is stepping

What the phases of a driving say about the machine, in terms of its single steps
alone.  `driven_as_stepped` puts it together: when ticks are done, when one fails and
what is left then, and that neither the times of the polls nor the size of the
batches can be seen in the machine.
-/

namespace Chip8

namespace Attachment

variable {δ : Type} [Display δ] {a : Attachment δ} {x : Host δ} {s : Nat} {f : Fault}
  {ticks : List Tick}

/-- While no tick broke, the polls that fired are those that were done. -/
theorem countP_fired_of_done (done : ∀ tick ∈ ticks, tick.broke = false) :
    ticks.countP Tick.fired = ticks.count .ticked := by
  rw [List.count_eq_countP]
  apply List.countP_congr
  intro tick membership
  have unbroken := done tick membership
  cases tick with
  | idle => exact Iff.rfl
  | pending wait => exact Iff.rfl
  | ticked => exact Iff.rfl
  | failed g => cases unbroken
  | crashed => cases unbroken

/-- The machine of a driving is told by how many polls fired. -/
theorem machine_of_driven (driven : a.attached.Driven ticks x) :
    x.world.machines[a.index]? =
      some (a.machine.steps (ticks.countP Tick.fired * a.batch)).state := by
  cases phase_of_driven driven with
  | live live done =>
      rw [live.world, machine_worldWith, (Cpu.steps_of_runs live.runs).2]
  | @ended s e ended broke fired =>
      have inside : s < ticks.countP Tick.fired * a.batch := by
        rw [fired, Nat.mul_comm]
        exact Nat.lt_mul_div_succ s a.positive
      rw [ended.machine, (Cpu.steps_of_failsAfter ended.failure inside).2]

/-- A due poll means that nothing failed yet. -/
theorem live_of_due (failure : a.machine.FailsAfter s (.fault f))
    (driven : a.attached.Driven ticks x) (due : x.Due) :
    a.Live (ticks.count .ticked) x := by
  cases phase_of_driven driven with
  | live live done =>
      rw [← countP_fired_of_done done]
      exact live
  | ended ended broke fired =>
      obtain ⟨-, rfl⟩ := failure.unique ended.failure
      obtain ⟨deadline, expected, -⟩ := due
      rw [ended.halted nofun] at expected
      cases expected

/-- A due poll fails in the tick of the first failing step, and is done before. -/
theorem tick_of_due (failure : a.machine.FailsAfter s (.fault f))
    (driven : a.attached.Driven ticks x) (due : x.Due) :
    x.poll.tick = if ticks.count .ticked = s / a.batch then .failed f else .ticked := by
  have live := live_of_due failure driven due
  rcases live.poll_due due with ⟨ticked, next⟩ | ⟨s', e, ⟨tickOf, ended⟩, broke⟩
  · -- The batch ran to its end, so the failing step lies in a later one.
    have before : (ticks.count .ticked + 1) * a.batch ≤ s := by
      apply Nat.le_of_not_lt
      intro inside
      exact failure.not_runs inside next.runs
    have earlier : ticks.count .ticked + 1 ≤ s / a.batch :=
      (Nat.le_div_iff_mul_le a.positive).mpr before
    rw [ticked, if_neg (by omega)]
  · obtain ⟨rfl, rfl⟩ := failure.unique ended.failure
    rw [if_pos tickOf.symm]
    rcases broke with ⟨g, same, failed, -⟩ | ⟨same, -⟩
    · cases same
      exact failed
    · cases same

theorem ticked_of_endless (runs : ∀ n, a.machine.Runs n) (driven : a.attached.Driven ticks x)
    (due : x.Due) : x.poll.tick = .ticked := by
  have endless {s : Nat} {e : Stop} (failure : a.machine.FailsAfter s e) : False :=
    failure.not_runs (Nat.lt_succ_self s) (runs (s + 1))
  cases phase_of_driven driven with
  | live live done =>
      rcases live.poll_due due with ⟨ticked, -⟩ | ⟨s, e, ⟨-, ended⟩, -⟩
      · exact ticked
      · exact (endless ended.failure).elim
  | ended ended broke fired => exact (endless ended.failure).elim

/-- A poll that fails comes to the first failing step, and leaves a host at rest. -/
theorem ended_of_failed {g : Fault} (failure : a.machine.FailsAfter s (.fault f))
    (driven : a.attached.Driven ticks x) (failed : x.poll.tick = .failed g) :
    g = f ∧ a.Ended s (.fault f) x.poll.session ∧
      x.poll.session.world = (a.onError f (a.worldWith (a.machine.after (s + 1)))).world := by
  cases phase_of_driven driven with
  | live live done =>
      by_cases due : x.Due
      · rcases live.poll_due due with ⟨ticked, -⟩ | ⟨s', e, ⟨-, ended⟩, broke⟩
        · rw [ticked] at failed
          cases failed
        · obtain ⟨rfl, rfl⟩ := failure.unique ended.failure
          rcases broke with ⟨f', same, told, world⟩ | ⟨same, -⟩
          · cases same
            rw [told] at failed
            cases failed
            exact ⟨rfl, ended, world⟩
          · cases same
      · obtain ⟨wait, pending⟩ := Session.poll_of_not_due live.running due
        rw [pending] at failed
        cases failed
  | ended ended broke fired =>
      have unfired := ended.poll.1
      rw [failed] at unfired
      cases unfired

/-- Driving an attached machine is the same as stepping it. -/
structure DrivenAsStepped (a : Attachment δ) : Prop where
  /-- After some ticks and no failure, the machine has taken a batch of steps for each of them, and
  nothing else has changed in the world. -/
  steady : ∀ {ticks : List Tick} {x : Host δ}, a.attached.Driven ticks x →
    (∀ tick ∈ ticks, tick.broke = false) →
    a.machine.Runs (ticks.count .ticked * a.batch) ∧
      x.world.machines[a.index]? = some (a.machine.after (ticks.count .ticked * a.batch)) ∧
      x.world = a.worldWith (a.machine.after (ticks.count .ticked * a.batch)) ∧
      (a.machine.after (ticks.count .ticked * a.batch)).cycles =
        a.machine.cycles + ticks.count .ticked * a.batch ∧
      x.scheduler.ticks = a.host.scheduler.ticks + ticks.count .ticked
  /-- A machine that never fails is run by every due poll. -/
  endless : (∀ n, a.machine.Runs n) → ∀ {ticks : List Tick} {x : Host δ},
    a.attached.Driven ticks x → x.Due → x.poll.tick = .ticked
  /-- A due poll fails exactly when the tick of the first failing step has come. -/
  due : ∀ {s : Nat} {f : Fault}, a.machine.FailsAfter s (.fault f) →
    ∀ {ticks : List Tick} {x : Host δ}, a.attached.Driven ticks x → x.Due →
    x.poll.tick = if ticks.count .ticked = s / a.batch then .failed f else .ticked
  /-- A poll that fails leaves the machine as the failing step did, with the error told once, and
  nothing happens after it. -/
  failed : ∀ {s : Nat} {f : Fault}, a.machine.FailsAfter s (.fault f) →
    ∀ {ticks : List Tick} {x : Host δ} {g : Fault}, a.attached.Driven ticks x →
    x.poll.tick = .failed g →
    g = f ∧
      x.poll.session.scheduler.ticks = a.host.scheduler.ticks + s / a.batch ∧
      x.poll.session.world.machines[a.index]? = some (a.machine.after (s + 1)) ∧
      (a.machine.after (s + 1)).cycles = a.machine.cycles + s ∧
      x.poll.session.world = (a.onError f (a.worldWith (a.machine.after (s + 1)))).world ∧
      ∀ {later : List Tick} {y : Host δ}, x.poll.session.Driven later y →
        (∀ tick ∈ later, tick = .idle) ∧ y.scheduler = x.poll.session.scheduler ∧
          y.world = x.poll.session.world
  /-- A batch may be cut in two anywhere. -/
  cut : ∀ m n : Nat, a.machine.runBatch (m + n) =
    match (a.machine.runBatch m).result with
    | .error _ => a.machine.runBatch m
    | .ok ran =>
        let rest := (a.machine.runBatch m).state.runBatch n
        { rest with
          result := rest.result.map (ran + ·)
          events := (a.machine.runBatch m).events ++ rest.events }
  /-- Two drivings give the same machine after the same number of ticks, whatever the hosts and the
  times of the polls. -/
  timing : ∀ {b : Attachment δ}, b.machine = a.machine → b.batch = a.batch →
    ∀ {ticks ticks' : List Tick} {x y : Host δ}, a.attached.Driven ticks x →
    b.attached.Driven ticks' y → ticks.countP Tick.fired = ticks'.countP Tick.fired →
    x.world.machines[a.index]? = y.world.machines[b.index]?

/-- Driving an attached machine is the same as stepping it, whatever the timing. -/
theorem driven_as_stepped (a : Attachment δ) : a.DrivenAsStepped where
  steady {ticks x} driven done := by
    cases phase_of_driven driven with
    | live live _ =>
        rw [countP_fired_of_done done] at live
        refine ⟨live.runs, ?_, live.world, live.runs.cycles, live.ticks⟩
        rw [live.world, machine_worldWith]
    | ended _ broke _ =>
        obtain ⟨tick, membership, broken⟩ := broke
        rw [done tick membership] at broken
        cases broken
  endless runs {ticks x} driven due := ticked_of_endless runs driven due
  due {s f} failure {ticks x} driven due := tick_of_due failure driven due
  failed {s f} failure {ticks x g} driven failed := by
    obtain ⟨same, ended, world⟩ := ended_of_failed failure driven failed
    refine ⟨same, ended.ticks, ended.machine, failure.cycles, world, ?_⟩
    intro later y driven
    exact driven.rest ⟨ended.subscribers, ended.halted nofun⟩
  cut := Cpu.runBatch_add a.machine
  timing {b} machine batch {ticks ticks' x y} first second same := by
    rw [machine_of_driven first, machine_of_driven second, machine, batch, same]

/-- A machine that fails at once, attached to a new host with batches of four steps. -/
def returning : Attachment FrameBuffer where
  host := .new 10 [Cpu.returning]
  vacant := Host.vacant_new _ _
  index := 0
  machine := Cpu.returning
  present := rfl
  batch := 4
  positive := by decide
  name := "m"
  onError := World.tellError [] "m"
  untouched := fun _ _ => rfl

theorem returning_driven :
    let x := returning.attached.advance 10
    x.poll.tick = .failed .stackUnderflow ∧ x.poll.session.scheduler.ticks = 0 ∧
      x.poll.session.world.machines[returning.index]? = some (returning.machine.after (0 + 1)) := by
  intro x
  have machine : returning.machine = Cpu.returning := rfl
  have failure : returning.machine.FailsAfter 0 (.fault .stackUnderflow) := by
    rw [machine]
    exact Cpu.failsAfter_zero Cpu.step_returning
  have driven : returning.attached.Driven [] x := .advance .start 10
  have due : x.Due := ⟨10, rfl, Nat.le_refl 10⟩
  have stepped := driven_as_stepped returning
  have tick := stepped.due failure driven due
  rw [if_pos (by decide)] at tick
  obtain ⟨-, ticks, left, -⟩ := stepped.failed failure driven tick
  rw [show returning.host.scheduler.ticks + 0 / returning.batch = 0 from rfl] at ticks
  exact ⟨tick, ticks, left⟩

end Attachment

end Chip8
