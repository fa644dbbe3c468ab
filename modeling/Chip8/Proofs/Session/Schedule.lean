import Chip8.Proofs.Session.Delivery

/-!
# The schedule

A schedule has an anchor and a grid: with an interval between its points, the deadlines
lie on the grid, and each tick that is done moves on by one point.  The scheduler keeps
neither.  It knows the next deadline alone and finds the one after it from the lateness
of the poll, and still nothing drifts (`drift_free`): while every poll is at most an
interval late, the deadline after so many ticks is that point of the grid, however late
each of them was and whatever time the callbacks took.

A poll that is later than that gives up the grid.  It is a single tick, and anchors the
schedule at the time at which it began.

What any use of a session does to the schedule is said once, by `Turn`.
-/

namespace Chip8.Session

variable {ω : Type} {x y : Session ω} {log news : List (Happening ω)} {anchor k : Nat}

/-! ## What a step does to the schedule -/

/-- What a step can do to the schedule, with the ticks that are done in it. -/
inductive Turn (x : Session ω) (news : List (Happening ω)) (y : Session ω) : Prop where
  /-- The deadline stays, and so it does that there is none. -/
  | kept (expected : y.scheduler.expected = x.scheduler.expected) (times : tickTimes news = [])
      (ticks : y.scheduler.ticks = x.scheduler.ticks) (later : x.now ≤ y.now)
  /-- Someone subscribes while nothing is scheduled. -/
  | started (halted : x.scheduler.expected = none)
      (expected : y.scheduler.expected = some (x.now + x.scheduler.interval))
      (times : tickTimes news = []) (ticks : y.scheduler.ticks = x.scheduler.ticks)
  /-- A due poll finds nobody, or its tick fails. -/
  | halted {deadline : Nat} {tick : Tick} (running : x.scheduler.expected = some deadline)
      (due : deadline ≤ x.now) (expected : y.scheduler.expected = none)
      (polled : .polled x.now (some deadline) tick ∈ news) (stopped : tick = .idle ∨ tick.broke)
      (times : tickTimes news = []) (ticks : y.scheduler.ticks = x.scheduler.ticks)
      (later : x.now ≤ y.now)
  /-- The tick of a due poll is done. -/
  | ticked {deadline : Nat} (running : x.scheduler.expected = some deadline)
      (due : deadline ≤ x.now) (expected : y.scheduler.expected = some (x.following deadline))
      (polled : .polled x.now (some deadline) .ticked ∈ news) (times : tickTimes news = [x.now])
      (ticks : y.scheduler.ticks = x.scheduler.ticks + 1)

theorem turn_poll (x : Session ω) : Turn x x.happenings x.poll.session := by
  have untimed {tick : Tick} (outcome : x.poll.tick = tick) (undone : tick ≠ .ticked) :
      tickTimes x.happenings = [] := by
    rw [tickTimes_happenings, outcome, if_neg undone]
  cases x.pollCase with
  | halted expected poll =>
      have times := untimed (congrArg Polled.tick poll) nofun
      rw [poll]
      exact .kept rfl times rfl (Nat.le_refl _)
  | early expected early poll =>
      have times := untimed (congrArg Polled.tick poll) nofun
      rw [poll]
      exact .kept rfl times rfl (Nat.le_refl _)
  | deserted expected due nobody tick session =>
      have polled := polled_mem_happenings_iff.mpr ⟨rfl, expected.symm, tick.symm⟩
      rw [session]
      exact .halted expected due rfl polled (.inl rfl) (untimed tick nofun) rfl (Nat.le_refl _)
  | ticked expected due someone done tick session =>
      have polled := polled_mem_happenings_iff.mpr ⟨rfl, expected.symm, tick.symm⟩
      have times : tickTimes x.happenings = [x.now] := by
        rw [tickTimes_happenings, if_pos tick]
      rw [session]
      exact .ticked expected due rfl polled times rfl
  | failed expected due split done stopped tick session =>
      have polled := polled_mem_happenings_iff.mpr ⟨rfl, expected.symm, tick.symm⟩
      rw [session]
      refine .halted expected due rfl polled (.inr rfl) (untimed tick nofun) rfl ?_
      exact Nat.le_trans (Nat.le_add_right _ _) (Nat.le_add_right _ _)
  | crashed expected due split done stopped noted tick session =>
      rw [session]
      exact .kept rfl (untimed tick nofun) rfl (Nat.le_add_right _ _)

theorem Step.turn (step : Step x news y) : Turn x news y := by
  cases step with
  | subscribe onTick onError =>
      cases expected : x.scheduler.expected with
      | none =>
          exact .started expected (expected_subscribe_of_halted expected onTick onError) rfl
            (Scheduler.ticks_subscribe _ _ _ _)
      | some deadline =>
          refine .kept ?_ rfl (Scheduler.ticks_subscribe _ _ _ _) (Nat.le_refl _)
          rw [Session.subscribe, Scheduler.fst_subscribe, expected]
          rfl
  | unsubscribe issued =>
      refine .kept (Scheduler.expected_unsubscribe _ _) rfl ?_ (Nat.le_refl _)
      rw [Session.unsubscribe, Scheduler.unsubscribe_eq]
  | advance time => exact .kept rfl rfl rfl (Nat.le_add_right _ _)
  | visit world => exact .kept rfl rfl rfl (Nat.le_refl _)
  | poll issued => exact x.turn_poll

/-! ## On the grid -/

/-- The next deadline is a point of a grid, the one after `k` others. -/
def Anchored (x : Session ω) (anchor k : Nat) : Prop :=
  x.scheduler.expected = some (anchor + (k + 1) * x.scheduler.interval)

/-- No poll was more than an interval late, none was in vain, and no tick failed. -/
structure Steady (interval : Nat) (log : List (Happening ω)) : Prop where
  punctual : ∀ {time deadline tick}, .polled time (some deadline) tick ∈ log →
    time ≤ deadline + interval
  attended : ∀ {time deadline}, .polled time deadline .idle ∉ log
  unbroken : ∀ {time deadline tick}, .polled time deadline tick ∈ log → tick.broke = false

theorem Steady.of_subset {interval : Nat} (steady : Steady interval log) (fewer : news ⊆ log) :
    Steady interval news where
  punctual membership := steady.punctual (fewer membership)
  attended membership := steady.attended (fewer membership)
  unbroken membership := steady.unbroken (fewer membership)

/-- No tick comes before its point of the grid.  The first has the point after `k` others. -/
def NoneEarly (anchor interval k : Nat) (times : List Nat) : Prop :=
  ∀ i time, times[i]? = some time → anchor + (k + i + 1) * interval ≤ time

theorem NoneEarly.nil (anchor interval k : Nat) : NoneEarly anchor interval k [] :=
  fun _ _ found => nomatch found

theorem NoneEarly.singleton {interval time : Nat} (due : anchor + (k + 1) * interval ≤ time) :
    NoneEarly anchor interval k [time] := by
  intro i other found
  cases i with
  | zero =>
      cases found
      exact due
  | succ i => cases found

theorem NoneEarly.append {interval : Nat} {times later : List Nat}
    (first : NoneEarly anchor interval k times)
    (second : NoneEarly anchor interval (k + times.length) later) :
    NoneEarly anchor interval k (times ++ later) := by
  intro i time found
  by_cases within : i < times.length
  · rw [List.getElem?_append_left within] at found
    exact first i time found
  · have beyond := Nat.not_lt.mp within
    rw [List.getElem?_append_right beyond] at found
    have bound := second _ time found
    rw [Nat.add_assoc k, Nat.add_sub_cancel' beyond] at bound
    exact bound

/-- A steady step moves on by one point with a tick, which comes at its own or later. -/
theorem Step.anchored (step : Step x news y) (steady : Steady x.scheduler.interval news)
    (anchored : x.Anchored anchor k) :
    y.Anchored anchor (k + (tickTimes news).length) ∧
      NoneEarly anchor x.scheduler.interval k (tickTimes news) := by
  unfold Anchored at anchored ⊢
  rw [step.interval]
  cases step.turn with
  | kept expected times ticks later =>
      rw [times, expected]
      exact ⟨anchored, .nil _ _ _⟩
  | started halted expected times ticks =>
      rw [halted] at anchored
      cases anchored
  | halted running due expected polled stopped times ticks later =>
      rcases stopped with idle | broke
      · rw [idle] at polled
        exact absurd polled steady.attended
      · rw [steady.unbroken polled] at broke
        cases broke
  | @ticked deadline running due expected polled times ticks =>
      have point : deadline = anchor + (k + 1) * x.scheduler.interval :=
        Option.some.inj (running.symm.trans anchored)
      rw [point] at due
      rw [times, expected, following, if_pos (steady.punctual polled), point, Nat.add_assoc,
        ← Nat.succ_mul]
      exact ⟨rfl, .singleton due⟩

/-- So does a steady history, with each of its ticks. -/
theorem History.anchored (history : x.History log y)
    (steady : Steady x.scheduler.interval log) (anchored : x.Anchored anchor k) :
    y.Anchored anchor (k + (tickTimes log).length) ∧
      NoneEarly anchor x.scheduler.interval k (tickTimes log) := by
  induction history with
  | start => exact ⟨anchored, .nil _ _ _⟩
  | @step log news y z history step ih =>
      obtain ⟨before, early⟩ := ih (steady.of_subset (List.subset_append_left _ _))
      have recent := steady.of_subset (List.subset_append_right log news)
      rw [← history.interval] at recent
      obtain ⟨after, late⟩ := step.anchored recent before
      rw [history.interval] at late
      rw [tickTimes_append, List.length_append, ← Nat.add_assoc]
      exact ⟨after, early.append late⟩

/-! ## No drift -/

/-- The schedule of a session, told by its anchor. -/
structure DriftFree (x : Session ω) : Prop where
  /-- Who subscribes while nothing is scheduled anchors the schedule. -/
  start : x.scheduler.expected = none → ∀ onTick onError,
    (x.subscribe onTick onError).Anchored x.now 0
  /-- In a steady history the deadline moves on by a point with each tick, and no tick is early. -/
  grid : ∀ {anchor k : Nat} {log : List (Happening ω)} {y : Session ω}, x.Anchored anchor k →
    x.History log y → Steady x.scheduler.interval log →
    y.Anchored anchor (k + (tickTimes log).length) ∧
      NoneEarly anchor x.scheduler.interval k (tickTimes log)
  /-- While someone stays registered no poll is in vain. -/
  attended : x.scheduler.expected ≠ none → x.scheduler.subscribers ≠ [] → x.poll.tick ≠ .idle
  /-- A poll more than an interval late is a single tick and anchors the schedule at its own time. -/
  stall : ∀ {deadline : Nat}, x.scheduler.expected = some deadline →
    deadline + x.scheduler.interval < x.now → x.scheduler.subscribers ≠ [] →
    Round.AllDone x.world x.scheduler.subscribers →
    x.poll.tick = .ticked ∧ x.poll.session.scheduler.ticks = x.scheduler.ticks + 1 ∧
      x.Leaves (Round.ticks x.world x.scheduler.subscribers) ∧ x.poll.session.Anchored x.now 0

theorem poll_ne_idle (running : x.scheduler.expected ≠ none)
    (someone : x.scheduler.subscribers ≠ []) : x.poll.tick ≠ .idle := by
  cases x.pollCase with
  | halted expected poll => exact absurd expected running
  | early expected early poll =>
      rw [poll]
      exact nofun
  | deserted expected due nobody tick session => exact absurd nobody someone
  | ticked expected due someone done tick session =>
      rw [tick]
      exact nofun
  | failed expected due split done stopped tick session =>
      rw [tick]
      exact nofun
  | crashed expected due split done stopped noted tick session =>
      rw [tick]
      exact nofun

theorem anchored_of_stall {deadline : Nat} (expected : x.scheduler.expected = some deadline)
    (stalled : deadline + x.scheduler.interval < x.now) (someone : x.scheduler.subscribers ≠ [])
    (done : Round.AllDone x.world x.scheduler.subscribers) :
    x.poll.tick = .ticked ∧ x.poll.session.scheduler.ticks = x.scheduler.ticks + 1 ∧
      x.Leaves (Round.ticks x.world x.scheduler.subscribers) ∧ x.poll.session.Anchored x.now 0 := by
  have due : deadline ≤ x.now := Nat.le_of_add_right_le (Nat.le_of_lt stalled)
  obtain ⟨tick, session⟩ := poll_of_allDone expected due someone done
  have reset : x.following deadline = x.now + x.scheduler.interval :=
    if_neg (Nat.not_le.mpr stalled)
  refine ⟨tick, ?_, leaves_of_ticked tick, ?_⟩
  · rw [session]
    rfl
  · rw [Anchored, session, Nat.zero_add, Nat.one_mul]
    exact congrArg some reset

/-- The schedule is free of drift while it is kept up with, and starts anew after a stall. -/
theorem drift_free (x : Session ω) : x.DriftFree where
  start halted onTick onError := by
    rw [Anchored, expected_subscribe_of_halted halted, Nat.zero_add, Nat.one_mul, Session.subscribe,
      Scheduler.fst_subscribe]
  grid anchored history steady := history.anchored steady anchored
  attended := poll_ne_idle
  stall := anchored_of_stall

/-! ## A session with a slow callback -/

/-- A tick callback that counts and takes its time. -/
def counting (time count : Nat) : TickReaction Nat := { world := count + 1, elapsed := time }

/-- A session in which a callback is due at 110 that takes 4. -/
def counted : Session Nat := (new 10 100 0).subscribe (counting 4) fun _ count => { world := count }

/-- The first tick comes 7 late, the second right after it, and then there is time left. -/
def keptUp : Session Nat := (counted.advance 17).poll.session.poll.session.poll.session

def lateLog : List (Happening Nat) :=
  [.polled 117 (some 110) .ticked, .polled 121 (some 120) .ticked,
    .polled 125 (some 130) (.pending 5)]

theorem history_keptUp : counted.History lateLog keptUp := by
  refine .step (.step (.step (.step .start (.advance 17)) (.poll ?_)) (.poll ?_)) (.poll ?_) <;>
    exact issued_of_quiet rfl

theorem mem_lateLog_iff {time : Nat} {deadline : Option Nat} {tick : Tick} :
    .polled time deadline tick ∈ lateLog ↔
      (time = 117 ∧ deadline = some 110 ∧ tick = .ticked) ∨
        (time = 121 ∧ deadline = some 120 ∧ tick = .ticked) ∨
          (time = 125 ∧ deadline = some 130 ∧ tick = .pending 5) := by
  simp [lateLog]

theorem steady_lateLog : Steady counted.scheduler.interval lateLog where
  punctual membership := by
    rcases mem_lateLog_iff.mp membership with ⟨rfl, one, -⟩ | ⟨rfl, one, -⟩ | ⟨rfl, one, -⟩ <;>
      cases one <;> decide
  attended membership := by
    rcases mem_lateLog_iff.mp membership with ⟨-, -, tick⟩ | ⟨-, -, tick⟩ | ⟨-, -, tick⟩ <;>
      cases tick
  unbroken membership := by
    rcases mem_lateLog_iff.mp membership with ⟨-, -, rfl⟩ | ⟨-, -, rfl⟩ | ⟨-, -, rfl⟩ <;> rfl

theorem grid_after_late_polls : keptUp.scheduler.expected = some (100 + 3 * 10) ∧
    (keptUp.advance 60).poll.tick = .ticked ∧
    (keptUp.advance 60).poll.session.scheduler.expected = some (185 + 10) := by
  have anchored : counted.Anchored 100 0 := (drift_free (new 10 100 0)).start rfl _ _
  obtain ⟨grid, -⟩ := (drift_free counted).grid anchored history_keptUp steady_lateLog
  obtain ⟨tick, -, -, reset⟩ := (drift_free (keptUp.advance 60)).stall grid (by decide)
    (List.cons_ne_nil _ _) ⟨rfl, trivial⟩
  exact ⟨grid, tick, reset⟩

end Chip8.Session
